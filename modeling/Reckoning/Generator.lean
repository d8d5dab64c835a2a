import Reckoning.Exchange

/-!
# The generator

Luck is drawn from a 64-bit word that is stirred by three shifts and exclusive ors.  Every
drawing function returns what was drawn together with the generator that goes on.

* `Generator.next` draws a word, `fraction` a number from zero up to one, `between` and
  `pickBetween` an integer between two bounds.
* `Generator.weighted` draws an index by weight.
* `Generator.shuffle` rearranges a list by a schedule of exchanges that `swapIndices` draws.
-/

namespace Reckoning

/-- The state that luck is drawn from. -/
structure Generator where
  state : UInt64
deriving DecidableEq, Repr, Inhabited

namespace Generator

/-- The state that takes the place of zero, which stirring would never leave. -/
def zeroSubstitute : UInt64 := 0x9E3779B97F4A7C15

/-- A generator for a seed. -/
def ofSeed (seed : UInt64) : Generator := ⟨if seed = 0 then zeroSubstitute else seed⟩

/-- Stir a word. -/
def stir (x : UInt64) : UInt64 :=
  let x := x ^^^ (x <<< 13)
  let x := x ^^^ (x >>> 7)
  x ^^^ (x <<< 17)

/-- Draw a word. -/
def next (g : Generator) : UInt64 × Generator :=
  let x := stir g.state
  (x, ⟨x⟩)

/-- Draw a fraction from zero up to one, out of the upper 53 bits of a word. -/
def fraction (g : Generator) : Float × Generator :=
  let (x, g) := g.next
  ((x >>> 11).toFloat / 9007199254740992.0, g)

/-- Draw a number below `n`. -/
def below (g : Generator) (n : Nat) : Nat × Generator :=
  let (x, g) := g.next
  (x.toNat % n, g)

/-- Draw an integer from `low` to `high`.  Without room between the bounds it is `low`, and
nothing is drawn. -/
def between (g : Generator) (low high : Int) : Int × Generator :=
  if high ≤ low then
    (low, g)
  else
    let (k, g) := g.below (high - low + 1).toNat
    (low + k, g)

/-- Draw a natural number from `low` to `high`.  Without room between the bounds it is `low`,
and nothing is drawn. -/
def pickBetween (g : Generator) (low high : Nat) : Nat × Generator :=
  if high ≤ low then
    (low, g)
  else
    let (k, g) := g.below (high - low + 1)
    (low + k, g)

/-- Draw a word from `low` to `high`.  The number of choices has to be a word itself, so the
range of all words has no draw. -/
def pickWord (g : Generator) (low high : UInt64) : Option (UInt64 × Generator) :=
  if high ≤ low then
    some (low, g)
  else
    let choices := high - low + 1
    if choices = 0 then
      none
    else
      let (x, g) := g.next
      some (low + x % choices, g)

/-- The sum of the weights above zero. -/
def totalWeight (weights : List Float) : Float :=
  (weights.filter (0.0 < ·)).foldl (· + ·) 0.0

/-- The last index with a weight above zero. -/
def lastWeighted (weights : List Float) : Option Nat :=
  (weights.zipIdx.filter (0.0 < ·.1)).getLast?.map (·.2)

/-- Walk along the weights, taking each from what is left of `threshold`, to the first index
where nothing is left.  Weights that are not above zero are passed over. -/
def walkWeights (threshold : Float) : Nat → List Float → Option Nat
  | _, [] => none
  | i, w :: rest =>
    if w ≤ 0.0 then
      walkWeights threshold (i + 1) rest
    else
      let left := threshold - w
      if left < 0.0 then some i else walkWeights left (i + 1) rest

/-- Draw an index, each as likely as its weight.  Without a weight above zero there is none,
and nothing is drawn. -/
def weighted (g : Generator) (weights : List Float) : Option Nat × Generator :=
  let total := totalWeight weights
  if weights.isEmpty || total ≤ 0.0 then
    (none, g)
  else
    let (f, g) := g.fraction
    match walkWeights (f * total) 0 weights with
    | some i => (some i, g)
    | none => (lastWeighted weights, g)

/-- Draw a partner for every index from `n - 1` down to one, each partner not above its
index. -/
def swapIndices : Nat → Generator → List (Nat × Nat) × Generator
  | n + 2, g =>
    let (j, g) := g.below (n + 2)
    let (rest, g) := swapIndices (n + 1) g
    ((n + 1, j) :: rest, g)
  | _, g => ([], g)

/-- Rearrange a list. -/
def shuffle {α : Type} (g : Generator) (xs : List α) : List α × Generator :=
  let (schedule, g) := swapIndices xs.length g
  (exchangeAll xs schedule, g)

theorem between_bounds (g : Generator) {low high : Int} (h : low ≤ high) :
    low ≤ (g.between low high).1 ∧ (g.between low high).1 ≤ high := by
  unfold between
  split
  · constructor <;> simp only <;> omega
  · have := Nat.mod_lt g.next.1.toNat (by omega : 0 < (high - low + 1).toNat)
    simp only [below]
    omega

theorem shuffle_perm {α : Type} (g : Generator) (xs : List α) : (g.shuffle xs).1.Perm xs :=
  exchangeAll_perm _ _

end Generator

end Reckoning
