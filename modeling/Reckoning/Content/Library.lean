import Reckoning.Content.Refusal

/-!
# The library

All definitions that the engine may consult, kind by kind, in the order in which they were
added.  The traits of characters share one space of ids; every other kind has its own.

* `Library.add` adds a definition whose id is free, or says why it is refused.
* `Library.quirk?` and its siblings look a definition up.
-/

namespace Reckoning

/-- Definitions in the order in which they were added. -/
structure Library where
  quirks : List Quirk
  failings : List Failing
  uselessBits : List UselessBit
  itemQuirks : List ItemQuirk
  itemTypes : List ItemType
  environmentalQuirks : List EnvironmentalQuirk
  actions : List Action
  reputationBiases : List ReputationBias

namespace Library

/-- The library without definitions. -/
def empty : Library := ⟨[], [], [], [], [], [], [], []⟩

instance : EmptyCollection Library := ⟨empty⟩

instance : Inhabited Library := ⟨empty⟩

/-! ### Looking up -/

/-- The quirk with an id. -/
def quirk? (l : Library) (id : DefId) : Option Quirk := l.quirks.find? (·.id == id)

/-- The failing with an id. -/
def failing? (l : Library) (id : DefId) : Option Failing := l.failings.find? (·.id == id)

/-- The useless bit with an id. -/
def uselessBit? (l : Library) (id : DefId) : Option UselessBit :=
  l.uselessBits.find? (·.id == id)

/-- The item quirk with an id. -/
def itemQuirk? (l : Library) (id : DefId) : Option ItemQuirk :=
  l.itemQuirks.find? (·.id == id)

/-- The item type with an id. -/
def itemType? (l : Library) (id : DefId) : Option ItemType := l.itemTypes.find? (·.id == id)

/-- The environmental quirk with an id. -/
def environmentalQuirk? (l : Library) (id : DefId) : Option EnvironmentalQuirk :=
  l.environmentalQuirks.find? (·.id == id)

/-- The action with an id. -/
def action? (l : Library) (id : DefId) : Option Action := l.actions.find? (·.id == id)

/-- The reputation with an id. -/
def reputationBias? (l : Library) (id : DefId) : Option ReputationBias :=
  l.reputationBiases.find? (·.id == id)

/-- The definition of a kind with an id. -/
def find? (l : Library) (kind : Kind) (id : DefId) : Option Definition :=
  match kind with
  | .quirk => (l.quirk? id).map .quirk
  | .failing => (l.failing? id).map .failing
  | .uselessBit => (l.uselessBit? id).map .uselessBit
  | .itemQuirk => (l.itemQuirk? id).map .itemQuirk
  | .itemType => (l.itemType? id).map .itemType
  | .environmentalQuirk => (l.environmentalQuirk? id).map .environmentalQuirk
  | .action => (l.action? id).map .action
  | .reputationBias => (l.reputationBias? id).map .reputationBias

/-- The quirks of a category. -/
def quirksIn (l : Library) (category : DefId) : List Quirk :=
  l.quirks.filter (·.category == category)

/-- The ids of one kind. -/
def ids (l : Library) : Kind → List DefId
  | .quirk => l.quirks.map (·.id)
  | .failing => l.failings.map (·.id)
  | .uselessBit => l.uselessBits.map (·.id)
  | .itemQuirk => l.itemQuirks.map (·.id)
  | .itemType => l.itemTypes.map (·.id)
  | .environmentalQuirk => l.environmentalQuirks.map (·.id)
  | .action => l.actions.map (·.id)
  | .reputationBias => l.reputationBiases.map (·.id)

/-- The ids of all traits of characters. -/
def traitIds (l : Library) : List DefId := l.ids .quirk ++ l.ids .failing ++ l.ids .uselessBit

/-- The number of definitions. -/
def size (l : Library) : Nat :=
  l.quirks.length + l.failings.length + l.uselessBits.length + l.itemQuirks.length
    + l.itemTypes.length + l.environmentalQuirks.length + l.actions.length
    + l.reputationBiases.length

/-! ### Adding -/

/-- Why a definition cannot be added: its id belongs to another one already. -/
def refusal? (l : Library) (d : Definition) : Option Refusal :=
  if d.kind = .quirk ∨ d.kind = .failing ∨ d.kind = .uselessBit then
    if l.traitIds.contains d.id then some (.takenTrait d.id) else none
  else
    if (l.ids d.kind).contains d.id then some (.taken d.id) else none

/-- Put a definition behind those of its kind. -/
def append (l : Library) : Definition → Library
  | .quirk d => { l with quirks := l.quirks ++ [d] }
  | .failing d => { l with failings := l.failings ++ [d] }
  | .uselessBit d => { l with uselessBits := l.uselessBits ++ [d] }
  | .itemQuirk d => { l with itemQuirks := l.itemQuirks ++ [d] }
  | .itemType d => { l with itemTypes := l.itemTypes ++ [d] }
  | .environmentalQuirk d => { l with environmentalQuirks := l.environmentalQuirks ++ [d] }
  | .action d => { l with actions := l.actions ++ [d] }
  | .reputationBias d => { l with reputationBiases := l.reputationBiases ++ [d] }

/-- Add a definition whose id is free. -/
def add (l : Library) (d : Definition) : Except Refusal Library :=
  match l.refusal? d with
  | some refusal => .error refusal
  | none => .ok (l.append d)

/-! ### Cross-checking -/

/-- Item types together with those of their default quirks that do not exist. -/
def dangling (l : Library) : List (DefId × DefId) :=
  l.itemTypes.flatMap fun t =>
    (t.defaultQuirks.filter fun q => !(l.ids .itemQuirk).contains q).map (t.id, ·)

/-- Take an item type out. -/
def withoutItemType (l : Library) (id : DefId) : Library :=
  { l with itemTypes := l.itemTypes.filter (·.id != id) }

/-- What the library is short of for issuing characters and resolving actions. -/
def shortage? (l : Library) : Option Shortage :=
  if l.quirks.length < leastQuirks then some (.quirks l.quirks.length)
  else if l.uselessBits.isEmpty then some .uselessBits
  else if l.actions.isEmpty then some .actions
  else none

@[simp] theorem ids_append (l : Library) (d : Definition) (k : Kind) :
    (l.append d).ids k = l.ids k ++ if k = d.kind then [d.id] else [] := by
  cases d <;> cases k <;> simp [append, ids, Definition.kind, Definition.id]

@[simp] theorem size_append (l : Library) (d : Definition) : (l.append d).size = l.size + 1 := by
  cases d <;> simp only [append, size, List.length_append, List.length_singleton] <;> omega

end Library

end Reckoning
