import Reckoning.Ledger.Period
import Reckoning.Record

/-!
# The index of a ledger

The entries of each character in the order in which they were committed, and beside them the
latest entry for each seed that luck was drawn from.

* `Index.push` commits an entry; `Index.nextId` is the name that the next one has to bear.
* `Index.history` is the view of one character, `Index.entries` that of all.
-/

namespace Reckoning

/-- The entries of a ledger. -/
structure Index where
  /-- The entries by character, in ascending order of the characters. -/
  histories : List (CharacterId × List LedgerEntry)
  /-- The latest entry for each character and seed. -/
  latestBySeed : List ((CharacterId × UInt64) × LedgerId)

namespace Index

/-- The index without entries. -/
def empty : Index := ⟨[], []⟩

instance : EmptyCollection Index := ⟨empty⟩

instance : Inhabited Index := ⟨empty⟩

/-- The value under a key. -/
def lookUp {κ β : Type} [DecidableEq κ] (key : κ) (rows : List (κ × β)) : Option β :=
  (rows.find? (·.1 = key)).map (·.2)

/-- Put a value under a key. -/
def put {κ β : Type} [DecidableEq κ] (key : κ) (value : β) :
    List (κ × β) → List (κ × β)
  | [] => [(key, value)]
  | (k, v) :: rest => if k = key then (key, value) :: rest else (k, v) :: put key value rest

/-- The entries of one character. -/
def history (i : Index) (c : CharacterId) : List LedgerEntry := (lookUp c i.histories).getD []

/-- The name of the next entry of a character.  Places are dense and count from one. -/
def nextId (i : Index) (c : CharacterId) : LedgerId := ⟨c, (i.history c).length + 1⟩

/-- Put an entry behind those of its character. -/
def insertEntry (e : LedgerEntry) :
    List (CharacterId × List LedgerEntry) → List (CharacterId × List LedgerEntry)
  | [] => [(e.id.character, [e])]
  | (c, es) :: rest =>
    if e.id.character.raw < c.raw then (e.id.character, [e]) :: (c, es) :: rest
    else if e.id.character = c then (c, es ++ [e]) :: rest
    else (c, es) :: insertEntry e rest

/-- Commit an entry that bears the name that `nextId` gave. -/
def push (i : Index) (e : LedgerEntry) : Index where
  histories := insertEntry e i.histories
  latestBySeed := put (e.id.character, e.record.derivedSeed) e.id i.latestBySeed

/-- The entry with a name. -/
def get? (i : Index) (id : LedgerId) : Option LedgerEntry :=
  match id.seq with
  | 0 => none
  | n + 1 => (i.history id.character)[n]?

/-- The latest entry of a character. -/
def latest? (i : Index) (c : CharacterId) : Option LedgerEntry := (i.history c).getLast?

/-- The latest entry of a character for a seed that luck was drawn from. -/
def findBySeed? (i : Index) (c : CharacterId) (seed : UInt64) : Option LedgerEntry :=
  (lookUp (c, seed) i.latestBySeed).bind i.get?

/-- The entries of a character within a period. -/
def query (i : Index) (c : CharacterId) (p : Period) : List LedgerEntry :=
  (i.history c).filter fun e => p.contains e.record.timestamp

/-- Every entry, by character and then by place. -/
def entries (i : Index) : List LedgerEntry := i.histories.flatMap (·.2)

/-- The number of entries. -/
def size (i : Index) : Nat := (i.histories.map (·.2.length)).foldl (· + ·) 0

end Index

end Reckoning
