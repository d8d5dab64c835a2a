import Reckoning.Ron.Header

/-!
# Reading RON

* `Document.read?` is the document of a whole text, if the text is well formed.

Brackets may be nested up to a limit: each pair takes one step of it, and so does each value
inside.  Only `()` takes none, if it is written without a blank and without a name in front.
-/

namespace Reckoning.Ron

namespace Reader

/-- The steps of nesting that a document may take. -/
def nestingLimit : Nat := 128

/-- Skip a comma, if there is one. -/
def comma : List Token → Bool × List Token
  | .mark ',' :: rest => (true, rest)
  | ts => (false, ts)

/-- The number that a word denotes. -/
def numberOfWord? (name : String) : Option Numeral :=
  (Token.numberWord? false name.toList).map (·.1)

/-- The fields of a structure follow: a name and a colon. -/
def startsStruct : List Token → Bool
  | .identifier _ _ :: .mark ':' :: _ => true
  | _ => false

/-- Inside `depth` brackets a comma follows that does not end the values in the outermost ones. -/
def startsSeveral : Nat → List Token → Bool
  | 0, .mark ',' :: rest => !rest.head?.any (· == .mark ')')
  | depth, .mark c :: rest =>
    if c == '(' || c == '[' || c == '{' then startsSeveral (depth + 1) rest
    else if c == ')' || c == ']' || c == '}' then
      match depth with
      | 0 => false
      | depth + 1 => startsSeveral depth rest
    else startsSeveral depth rest
  | depth, _ :: rest => startsSeveral depth rest
  | _, [] => false

section

variable (extensions : List Extension)

mutual

/-- Read a value.  `n` bounds the number of calls that are open, `depth` the nesting. -/
def value : Nat → Nat → List Token → Option (Value × List Token)
  | 0, _, _ => none
  | n + 1, depth, ts =>
    match ts with
    | .number k :: rest => some (.number k, rest)
    | .text s :: rest => some (.text s, rest)
    | .foreign :: rest => some (.foreign, rest)
    | .unit :: rest => some (.tuple none [], rest)
    | .mark '[' :: rest =>
      match depth with
      | 0 => none
      | depth + 1 => (items n depth ']' rest).map fun p => (.list p.1, p.2)
    | .mark '{' :: rest =>
      match depth with
      | 0 => none
      | depth + 1 => (entries n depth rest).map fun p => (.map p.1, p.2)
    | .mark '(' :: rest => group n depth none rest
    | .identifier name raw :: rest =>
      if !raw && name == "true" then some (.bool true, rest)
      else if !raw && name == "false" then some (.bool false, rest)
      else if !raw && name == "None" then some (.absent, rest)
      else if !raw && name == "Some" then
        match depth with
        | 0 => none
        | depth + 1 => wrapped n depth rest
      else
        match if raw then none else numberOfWord? name with
        | some k => some (.number k, rest)
        | none =>
          match rest with
          | .mark '(' :: rest => group n depth (some name) rest
          | .unit :: rest => group n depth (some name) (.mark ')' :: rest)
          | _ => some (.word name, rest)
    | _ => none

/-- Read the value that is wrapped, in parentheses if no extension allows it without. -/
def wrapped : Nat → Nat → List Token → Option (Value × List Token)
  | 0, _, _ => none
  | n + 1, depth, ts =>
    match ts with
    | .unit :: rest =>
      if extensions.contains .unwrapVariantNewtypes then some (.extended, rest) else none
    | .mark '(' :: rest =>
      if extensions.contains .unwrapVariantNewtypes
          && (startsStruct rest || startsSeveral 0 rest || rest.head? == some (.mark ')')) then
        unwrapped n depth rest
      else do
        let (v, rest) ← value n depth rest
        match (comma rest).2 with
        | .mark ')' :: rest => return (.present v, rest)
        | _ => none
    | _ =>
      if extensions.contains .implicitSome then
        (value n depth ts).map fun p => (.extended, p.2)
      else none

/-- Read fields or values that are wrapped without parentheses of their own. -/
def unwrapped : Nat → Nat → List Token → Option (Value × List Token)
  | _ + 1, _, .mark ')' :: rest => some (.extended, rest)
  | n + 1, depth, ts => (group n depth none ts).map fun p => (.extended, p.2)
  | _, _, _ => none

/-- Read what stands in parentheses: fields, or values. -/
def group : Nat → Nat → Option String → List Token → Option (Value × List Token)
  | n + 1, depth + 1, name, ts =>
    if startsStruct ts then
      (fields n depth ts).map fun p => (.struct name p.1, p.2)
    else
      (items n depth ')' ts).map fun p => (.tuple name p.1, p.2)
  | _, _, _, _ => none

/-- Read values up to a closing bracket. -/
def items : Nat → Nat → Char → List Token → Option (List Value × List Token)
  | 0, _, _, _ => none
  | n + 1, depth, closing, ts =>
    match ts with
    | .mark c :: rest => if c = closing then some ([], rest) else item n depth closing ts
    | _ => item n depth closing ts

/-- Read a value and the values that follow it. -/
def item : Nat → Nat → Char → List Token → Option (List Value × List Token)
  | n + 1, depth + 1, closing, ts => do
    let (v, rest) ← value n depth ts
    match comma rest with
    | (true, rest) =>
      let (vs, rest) ← items n (depth + 1) closing rest
      return (v :: vs, rest)
    | (false, rest) =>
      match rest with
      | .mark c :: rest => if c = closing then return ([v], rest) else none
      | _ => none
  | _, _, _, _ => none

/-- Read the entries of a map and the closing brace. -/
def entries : Nat → Nat → List Token → Option (List (Value × Value) × List Token)
  | _ + 1, _, .mark '}' :: rest => some ([], rest)
  | n + 1, depth + 1, ts => do
    let (k, rest) ← value n depth ts
    match rest with
    | .mark ':' :: rest =>
      let (v, rest) ← value n depth rest
      match comma rest with
      | (true, rest) =>
        let (es, rest) ← entries n (depth + 1) rest
        return ((k, v) :: es, rest)
      | (false, rest) =>
        match rest with
        | .mark '}' :: rest => return ([(k, v)], rest)
        | _ => none
    | _ => none
  | _, _, _ => none

/-- Read the fields of a structure and the closing parenthesis. -/
def fields : Nat → Nat → List Token → Option (List (String × Value) × List Token)
  | _ + 1, _, .mark ')' :: rest => some ([], rest)
  | n + 1, depth + 1, .identifier name _ :: .mark ':' :: rest => do
    let (v, rest) ← value n depth rest
    match comma rest with
    | (true, rest) =>
      let (fs, rest) ← fields n (depth + 1) rest
      return ((name, v) :: fs, rest)
    | (false, rest) =>
      match rest with
      | .mark ')' :: rest => return ([(name, v)], rest)
      | _ => none
  | _, _, _ => none

end

end

end Reader

/-- The document of a whole text, if it is well formed. -/
def Document.read? (text : String) : Option Document := do
  let ts ← tokens? text
  let (extensions, ts) ← Extension.header ts.length ts
  let (v, rest) ← Reader.value extensions (4 * ts.length + 4) Reader.nestingLimit ts
  if rest.isEmpty then some ⟨extensions.contains .explicitStructNames, v⟩ else none

end Reckoning.Ron
