import Reckoning.Ron.Token

/-!
# Headers of RON texts

A text may start with attributes.  One kind enables extensions of the format; the others say what
the text describes, and mean nothing to a reader.

* `Extension` is an extension.
* `Extension.header` reads the attributes and gives the extensions that they enable.
-/

namespace Reckoning.Ron

/-- An extension of the format. -/
inductive Extension
  /-- A structure around one value may be left out. -/
  | unwrapNewtypes
  /-- What is wrapped may stand without parentheses. -/
  | implicitSome
  /-- Fields or values may stand in the parentheses around what is wrapped, without their own. -/
  | unwrapVariantNewtypes
  /-- A structure has to bear its name. -/
  | explicitStructNames
deriving DecidableEq, Repr

namespace Extension

/-- The extension with a name. -/
def ofName? : String → Option Extension
  | "unwrap_newtypes" => some unwrapNewtypes
  | "implicit_some" => some implicitSome
  | "unwrap_variant_newtypes" => some unwrapVariantNewtypes
  | "explicit_struct_names" => some explicitStructNames
  | _ => none

/-- Read the names of extensions and the closing brackets. -/
def names : List Token → Option (List Extension × List Token)
  | .identifier name _ :: .mark ',' :: .mark ')' :: .mark ']' :: rest
  | .identifier name _ :: .mark ')' :: .mark ']' :: rest =>
    (ofName? name).map fun e => ([e], rest)
  | .identifier name _ :: .mark ',' :: rest => do
    let e ← ofName? name
    let (es, rest) ← names rest
    return (e :: es, rest)
  | _ => none

/-- The attributes that describe a text. -/
def descriptions : List String := ["type", "schema"]

/-- Read one attribute behind its opening bracket. -/
def attributeBody : List Token → Option (List Extension × List Token)
  | .identifier name false :: .mark '=' :: .text _ :: .mark ']' :: rest =>
    if descriptions.contains name then some ([], rest) else none
  | .identifier "enable" false :: .mark '(' :: rest => names rest
  | _ => none

/-- Read at most `n` attributes at the start of a text. -/
def header : Nat → List Token → Option (List Extension × List Token)
  | n + 1, .mark '#' :: rest =>
    match rest with
    | .mark '!' :: .mark '[' :: rest => do
      let (es, rest) ← attributeBody rest
      let (more, rest) ← header n rest
      return (es ++ more, rest)
    | _ => none
  | _, ts => some ([], ts)

end Extension

end Reckoning.Ron
