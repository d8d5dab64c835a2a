import Reckoning.Content.File
import Reckoning.Content.Library
import Reckoning.Content.Tree

/-!
# Loading content

A loader gathers definitions.  A lenient one leaves refused definitions out and remembers them;
a strict one stops at the first.

* `Loader.load`, `Loader.loadBytes` and `Loader.loadTree` take content in.  Each gives the
  loader that it leaves behind, and the error that stopped it, if any: what came before the
  error stays.
* `Loader.finish` checks the definitions against each other and hands the library over.
-/

namespace Reckoning

/-- Definitions on their way into a library. -/
structure Loader where
  library : Library
  rejected : List Rejection
  /-- The first refused definition is an error. -/
  strict : Bool

/-- What happened while a library was loaded. -/
structure LoadReport where
  /-- The number of definitions in the library. -/
  loaded : Nat
  rejected : List Rejection

/-- Nothing was left out. -/
def LoadReport.isClean (r : LoadReport) : Bool := r.rejected.isEmpty

namespace Loader

/-- A loader without definitions. -/
def start (strict : Bool) : Loader := ⟨∅, [], strict⟩

/-- Add a definition that is known to be sound. -/
def add (l : Loader) (d : Definition) : Except Refusal Loader :=
  (fun library => { l with library }) <$> l.library.add d

/-- Leave a definition out. -/
def reject (l : Loader) (r : Rejection) : Except ContentError Loader :=
  if l.strict then .error (.malformed r) else .ok { l with rejected := l.rejected ++ [r] }

/-- Take an entry in. -/
def offer (l : Loader) (e : Entry) : Except ContentError Loader :=
  match e.definition >>= l.add with
  | .ok l => .ok l
  | .error reason => l.reject ⟨e.kind, e.label, reason⟩

/-- Do something for each of some things, up to the first error. -/
def each {α : Type} (f : Loader → α → Loader × Option ContentError) (l : Loader) :
    List α → Loader × Option ContentError
  | [] => (l, none)
  | x :: rest =>
    match f l x with
    | (l, none) => each f l rest
    | (l, some error) => (l, some error)

/-- Take an entry in; an error leaves the loader as it was. -/
def offerOrStop (l : Loader) (e : Entry) : Loader × Option ContentError :=
  match l.offer e with
  | .ok l => (l, none)
  | .error error => (l, some error)

/-- Take the text of a content file in. -/
def load (l : Loader) (text : String) : Loader × Option ContentError :=
  match contentEntries? text with
  | some entries => l.each offerOrStop entries
  | none => (l, some (.notContent "the text is not a content file"))

/-- Take a content file in. -/
def loadBytes (l : Loader) (bytes : List UInt8) : Loader × Option ContentError :=
  match String.fromUTF8? (ByteArray.mk bytes.toArray) with
  | some text => l.load text
  | none => (l, some (.io "the file is not UTF-8 text"))

/-- Take a folder of content files in, if there is one. -/
def loadTree (l : Loader) (tree : Option Node) : Loader × Option ContentError :=
  match tree.bind Node.contentFiles? with
  | some files => l.each loadBytes files
  | none => (l, some (.io "not a folder"))

/-- Leave the item types out that start with an item quirk that does not exist. -/
def dropDangling (l : Loader) : Except ContentError Loader :=
  l.library.dangling.foldlM
    (fun l p => reject { l with library := l.library.withoutItemType p.1 }
      ⟨.itemType, p.1.text, .unknownDefault p.2⟩)
    l

/-- Check the definitions against each other and hand the library over. -/
def finish (l : Loader) : Except ContentError (Library × LoadReport) := do
  let l ← l.dropDangling
  match l.library.shortage? with
  | some shortage => throw (.unusable shortage)
  | none => return (l.library, ⟨l.library.size, l.rejected⟩)

end Loader

end Reckoning
