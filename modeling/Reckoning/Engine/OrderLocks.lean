import Reckoning.Identity

/-!
# Order locks

The actions of one character are resolved one after the other, so each character has a lock of
its own, made when it is first asked for.

* `OrderLocks.forCharacter` gives the number of a character's lock.
-/

namespace Reckoning

/-- The characters that have a lock, in the order in which the locks were made. -/
structure OrderLocks where
  owners : List CharacterId
deriving DecidableEq, Repr

namespace OrderLocks

/-- No locks. -/
def empty : OrderLocks := ⟨[]⟩

instance : EmptyCollection OrderLocks := ⟨empty⟩

instance : Inhabited OrderLocks := ⟨empty⟩

/-- The number of a character's lock, which is made if there is none yet. -/
def forCharacter (l : OrderLocks) (c : CharacterId) : Nat × OrderLocks :=
  match l.owners.idxOf? c with
  | some n => (n, l)
  | none => (l.owners.length, ⟨l.owners ++ [c]⟩)

/-- The number of locks. -/
def size (l : OrderLocks) : Nat := l.owners.length

end OrderLocks

end Reckoning
