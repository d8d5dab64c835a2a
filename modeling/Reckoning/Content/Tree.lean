/-!
# Folders of content

A folder as a tree of named files and folders.

* `Node.contentFiles` are the content files below a node, in the order in which they load:
  names in ascending order, a folder where its name stands.
-/

namespace Reckoning

/-- A file, or a folder. -/
inductive Node
  | file (bytes : List UInt8)
  | folder (children : List (String × Node))
deriving Inhabited

namespace Node

/-- A file name is that of a content file: something stands before the ending. -/
def isContentName (name : String) : Bool :=
  name.endsWith ".ron" && name != ".ron"

/-- Put a child into children that are sorted by name. -/
def insertChild {α : Type} (name : String) (child : α) :
    List (String × α) → List (String × α)
  | [] => [(name, child)]
  | (n, c) :: rest =>
    if name ≤ n then (name, child) :: (n, c) :: rest else (n, c) :: insertChild name child rest

/-- Children in the order of their names. -/
def sortChildren {α : Type} : List (String × α) → List (String × α)
  | [] => []
  | (n, c) :: rest => insertChild n c (sortChildren rest)

mutual

/-- The content files below a node that has a name. -/
def filesBelow (name : String) : Node → List (List UInt8)
  | .file bytes => if isContentName name then [bytes] else []
  | .folder children => ((sortChildren (filesOfEach children)).map (·.2)).flatten

/-- The content files below each child, under the name of the child. -/
def filesOfEach : List (String × Node) → List (String × List (List UInt8))
  | [] => []
  | (name, child) :: rest => (name, filesBelow name child) :: filesOfEach rest

end

/-- The content files of a folder.  A file is no folder. -/
def contentFiles? : Node → Option (List (List UInt8))
  | .file _ => none
  | .folder children => some (filesBelow "" (.folder children))

/-- Put something into a folder, under a path; the folders on the way are made. -/
def place : Node → List String → Node → Node
  | _, [], content => content
  | .file _, name :: path, content => .folder [(name, place (.folder []) path content)]
  | .folder children, name :: path, content =>
    let old := (children.find? (·.1 == name)).map (·.2)
    let others := children.filter (·.1 != name)
    .folder (others ++ [(name, place (old.getD (.folder [])) path content)])

end Node

end Reckoning
