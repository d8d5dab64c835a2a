import Reckoning.Content.Library
import Reckoning.Engine.Error
import Reckoning.Generator
import Reckoning.Seed

/-!
# Issuance

A character is made of an account, a sex, a seed and a library, and of nothing else: the same
four always give the same character.

* `rollAttributes` rolls attributes; `leastSpread_le_spread`: the first roll is always good.
* `sampleDistinct` draws ids by weight, none of them twice.
* `issueCharacter` issues a character.
-/

namespace Reckoning

/-! ### Attributes -/

/-- The smallest spread that issued attributes may have. -/
def leastSpread : Int := 4

/-- Draw some ordinary values. -/
def drawOrdinary : Nat → Generator → List Int × Generator
  | 0, g => ([], g)
  | n + 1, g =>
    let (v, g) := g.between 1 6
    let (vs, g) := drawOrdinary n g
    (v :: vs, g)

/-- Draw a high value, a low one and five ordinary ones, and shuffle them. -/
def drawValues (g : Generator) : List Int × Generator :=
  let (high, g) := g.between 8 10
  let (low, g) := g.between 1 3
  let (rest, g) := drawOrdinary 5 g
  g.shuffle (high :: low :: rest)

theorem length_drawOrdinary (n : Nat) (g : Generator) : (drawOrdinary n g).1.length = n := by
  induction n generalizing g with
  | zero => rfl
  | succ n ih => simp [drawOrdinary, ih]

theorem drawOrdinary_bounds (n : Nat) (g : Generator) :
    ∀ v ∈ (drawOrdinary n g).1, 1 ≤ v ∧ v ≤ 6 := by
  induction n generalizing g with
  | zero => simp [drawOrdinary]
  | succ n ih =>
    intro v hv
    rcases List.mem_cons.1 hv with rfl | hv
    · exact g.between_bounds (by decide : (1 : Int) ≤ 6)
    · exact ih _ v hv

/-- What is drawn: a high value, a low one and five ordinary ones, in some order. -/
theorem drawValues_perm (g : Generator) : ∃ high low rest,
    (drawValues g).1.Perm (high :: low :: rest) ∧ (8 ≤ high ∧ high ≤ 10)
      ∧ (1 ≤ low ∧ low ≤ 3) ∧ rest.length = 5 ∧ ∀ v ∈ rest, 1 ≤ v ∧ v ≤ 6 := by
  refine ⟨_, _, _, Generator.shuffle_perm _ _, ?_, ?_, ?_, ?_⟩
  · exact g.between_bounds (by decide : (8 : Int) ≤ 10)
  · exact Generator.between_bounds _ (by decide : (1 : Int) ≤ 3)
  · exact length_drawOrdinary 5 _
  · exact drawOrdinary_bounds 5 _

theorem length_drawValues (g : Generator) : (drawValues g).1.length = 7 := by
  obtain ⟨high, low, rest, hp, -, -, hr, -⟩ := drawValues_perm g
  simp [hp.length_eq, hr]

theorem drawValues_bounds (g : Generator) :
    ∀ v ∈ (drawValues g).1, leastAttribute ≤ v ∧ v ≤ mostAttribute := by
  obtain ⟨high, low, rest, hp, hh, hl, -, hr⟩ := drawValues_perm g
  intro v hv
  unfold leastAttribute mostAttribute
  rcases List.mem_cons.1 (hp.mem_iff.1 hv) with rfl | hv
  · omega
  · rcases List.mem_cons.1 hv with rfl | hv
    · omega
    · have := hr v hv
      omega

/-- Draw attributes once. -/
def drawAttributes (g : Generator) : AttributeSet :=
  ⟨(drawValues g).1, length_drawValues g, drawValues_bounds g⟩

theorem leastSpread_le_spread (g : Generator) : leastSpread ≤ (drawAttributes g).spread := by
  obtain ⟨high, low, rest, hp, hh, hl, -⟩ := drawValues_perm g
  have ha : high ∈ (drawAttributes g).values := by simp [drawAttributes, hp.mem_iff]
  have hb : low ∈ (drawAttributes g).values := by simp [drawAttributes, hp.mem_iff]
  have := (drawAttributes g).le_spread ha hb
  unfold leastSpread
  omega

/-- Draw attributes until their spread is large enough. -/
def rollAttributes (g : Generator) : AttributeSet × Generator :=
  if _enough : leastSpread ≤ (drawAttributes g).spread then
    (drawAttributes g, (drawValues g).2)
  else
    rollAttributes (drawValues g).2
termination_by g.state.toNat
decreasing_by exact absurd (leastSpread_le_spread g) _enough

/-! ### Traits -/

/-- Take an element out; the last one moves to its place. -/
def swapRemove {α : Type} (xs : List α) (i : Nat) : List α :=
  match xs.getLast? with
  | some last => (xs.set i last).dropLast
  | none => xs

/-- Draw up to `count` ids from a pool, each as likely as its weight and none of them twice. -/
def sampleDistinct : Nat → List (DefId × Float) → Generator → List DefId × Generator
  | 0, _, g => ([], g)
  | count + 1, pool, g =>
    let (drawn, g) := g.weighted (pool.map (·.2))
    match drawn.bind fun i => pool[i]?.map (·.1, i) with
    | none => ([], g)
    | some (id, i) =>
      let (ids, g) := sampleDistinct count (swapRemove pool i) g
      (id :: ids, g)

/-- The most failings of a new character. -/
def mostFailings : Nat := 2

/-- The most useless bits of a new character. -/
def mostUselessBits : Nat := 2

/-- Draw a number of ids and then as many ids. -/
def samplePool (least most : Nat) (pool : List (DefId × Float)) (g : Generator) :
    List DefId × Generator :=
  let (count, g) := g.pickBetween least most
  sampleDistinct count pool g

/-- Draw a reputation; an unknown one where there is none to draw. -/
def rollReputation (biases : List ReputationBias) (g : Generator) : Reputation :=
  let (drawn, _) := g.weighted (biases.map (·.weight))
  ((drawn.bind fun i => biases[i]?).map ReputationBias.reputation).getD ⟨0, ""⟩

/-! ### Characters -/

/-- What determines an issuance. -/
def issuanceParts (account : String) (sex : Sex) (seed : String) : List SeedPart :=
  [.text account, .text sex.name, .text seed]

/-- Issue a character for an account. -/
def issueCharacter (library : Library) (account sex seed : String) (createdAt : Timestamp) :
    EngineResult Character := do
  let sex ← (Sex.read sex).mapError fun _ => .invalidSex sex
  let parts := issuanceParts account sex seed
  let g := Generator.ofSeed (seedOf "issue" parts)
  let id : CharacterId := ⟨seedOf "character" parts⟩
  let (attributes, g) := rollAttributes g
  if library.quirks.length < leastQuirks then
    throw (.library (.quirks library.quirks.length))
  let (quirks, g) := samplePool leastQuirks mostQuirks
    (library.quirks.map fun d => (d.id, d.weight)) g
  let (failings, g) := samplePool 0 mostFailings
    (library.failings.map fun d => (d.id, d.weight)) g
  if library.uselessBits.isEmpty then
    throw (.library .uselessBits)
  let (uselessBits, g) := samplePool 1 mostUselessBits
    (library.uselessBits.map fun d => (d.id, d.weight)) g
  let reputation := rollReputation library.reputationBiases g
  (Character.ofSheet {
    id, account, sex, attributes, quirks, failings, uselessBits, reputation,
    issuedSeed := seed, createdAt }).mapError .rule

end Reckoning
