import Mathlib.Algebra.Order.BigOperators.Group.List
import Mathlib.Algebra.Order.Group.Int
import Mathlib.Tactic.Linarith
import Mathlib.Tactic.Ring
import Mathlib.Tactic.SplitIfs
import Reckoning.Content.Trait
import Reckoning.Proofs.Words

/-!
# How bad a failing gets

The degradation by a failing lies between its two magnitudes.  The weaker the attributes that it
affects, the larger it is, and it reaches both ends of the range.

* `Failing.weakness` is how much the affected attributes lack, taken together;
  `Failing.magnitudeFor_of_affected` says that the degradation is the share of the range that
  corresponds to it.
* `Failing.magnitudeInWords?` computes the same in signed words, and gives up where a number on the
  way does not fit.
* `Failing.FollowsWeakness` collects what is known of a failing, `Failing.followsWeakness` says that
  it holds for every range of 32-bit magnitudes.
-/

namespace Reckoning

/-! ### Sums and quotients in words -/

/-- The sum of some numbers, added up in words of 64 bits. -/
def sumInWords? (ns : List Int) : Option Int := ns.foldlM (fun sum n => word? 64 (sum + n)) 0

/-- A quotient in words of 64 bits. -/
def quotientInWords? (n d : Int) : Option Int := if d = 0 then none else word? 64 (n.tdiv d)

theorem foldlM_word? {ns : List Int} {most : Int} (h : ∀ n ∈ ns, 0 ≤ n ∧ n ≤ most) {sum : Int}
    (h0 : 0 ≤ sum) (hfits : sum + ns.length * most < 2 ^ 63) :
    ns.foldlM (fun sum n => word? 64 (sum + n)) sum = some (sum + ns.sum) := by
  induction ns generalizing sum with
  | nil => simp
  | cons n ns ih =>
    obtain ⟨⟨hn, hnm⟩, hns⟩ := List.forall_mem_cons.1 h
    have hrest : (0 : Int) ≤ ns.length * most := Int.mul_nonneg (by omega) (by omega)
    have hl : ((n :: ns).length : Int) * most = ns.length * most + most := by
      rw [List.length_cons]
      push_cast
      ring
    have hw : word? 64 (sum + n) = some (sum + n) := word?_eq (by omega) (by omega)
    rw [List.foldlM_cons, hw, Option.bind_eq_bind, Option.bind_some, ih hns (by omega) (by omega),
      List.sum_cons, Int.add_assoc]

/-- A sum of few small numbers never leaves a word. -/
theorem sumInWords?_eq {ns : List Int} {m : Int} (h : ∀ n ∈ ns, 0 ≤ n ∧ n ≤ m)
    (hfits : ns.length * m < 2 ^ 63) : sumInWords? ns = some ns.sum := by
  unfold sumInWords?
  rw [foldlM_word? h (Int.le_refl 0) (by omega), Int.zero_add]

namespace Failing

variable {f : Failing} {a b : AttributeSet}

/-! ### Weakness -/

/-- How much the affected attributes lack, taken together. -/
def weakness (f : Failing) (attributes : AttributeSet) : Int :=
  mostAttribute * f.affected.length - (f.affected.map attributes.get).sum

/-- How much the affected attributes can lack. -/
def mostWeakness (f : Failing) : Int := (mostAttribute - 1) * f.affected.length

theorem mostWeakness_pos (hne : f.affected ≠ []) : 0 < f.mostWeakness := by
  have := List.length_pos_of_ne_nil hne
  unfold mostWeakness mostAttribute
  omega

theorem sum_get_bounds (f : Failing) (a : AttributeSet) :
    f.affected.length ≤ (f.affected.map a.get).sum ∧
      (f.affected.map a.get).sum ≤ mostAttribute * f.affected.length := by
  have hget : ∀ v ∈ f.affected.map a.get, leastAttribute ≤ v ∧ v ≤ mostAttribute := by
    intro v hv
    obtain ⟨x, -, rfl⟩ := List.mem_map.1 hv
    exact a.get_bounds x
  have hl := List.card_nsmul_le_sum _ _ fun v hv => (hget v hv).1
  have hm := List.sum_le_card_nsmul _ _ fun v hv => (hget v hv).2
  rw [List.length_map, nsmul_eq_mul] at hl hm
  unfold leastAttribute mostAttribute at *
  omega

/-- The sum of few attributes never leaves a word. -/
theorem sumInWords?_get (f : Failing) (a : AttributeSet) (h : f.affected.length < 2 ^ 24) :
    sumInWords? (f.affected.map a.get) = some (f.affected.map a.get).sum := by
  refine sumInWords?_eq (m := mostAttribute) ?_ ?_
  · intro v hv
    obtain ⟨x, -, rfl⟩ := List.mem_map.1 hv
    have := a.get_bounds x
    unfold leastAttribute at this
    omega
  · rw [List.length_map]
    unfold mostAttribute
    omega

theorem weakness_bounds (f : Failing) (a : AttributeSet) :
    0 ≤ f.weakness a ∧ f.weakness a ≤ f.mostWeakness := by
  have := f.sum_get_bounds a
  unfold weakness mostWeakness mostAttribute at *
  omega

/-- Stronger attributes lack less. -/
theorem weakness_anti (h : ∀ x ∈ f.affected, a.get x ≤ b.get x) :
    f.weakness b ≤ f.weakness a := by
  have := List.sum_le_sum h
  unfold weakness
  omega

theorem sum_get_of_forall {v : Int} (h : ∀ x ∈ f.affected, a.get x = v) :
    (f.affected.map a.get).sum = f.affected.length * v := by
  rw [List.map_congr_left h, List.map_const', List.sum_replicate, nsmul_eq_mul]

/-! ### The middle and the share of the range -/

/-- Where no attribute is affected, the degradation is in the middle of the range. -/
theorem magnitudeFor_of_unaffected (hnil : f.affected = []) (a : AttributeSet) :
    f.magnitudeFor a = (f.leastMagnitude + f.mostMagnitude).tdiv 2 := by
  unfold magnitudeFor
  simp only [hnil, List.isEmpty_nil, if_true]
  split_ifs with heq
  · rw [heq, ← Int.two_mul, Int.mul_tdiv_cancel_left _ (by decide)]
  · rfl

/-- The middle is rounded towards zero, and stays in the range. -/
theorem middle_bounds {least most : Int} (h : least ≤ most) :
    least ≤ (least + most).tdiv 2 ∧ (least + most).tdiv 2 ≤ most := by
  rcases Int.le_total 0 (least + most) with hs | hs
  · rw [Int.tdiv_eq_ediv_of_nonneg hs]
    omega
  · have hneg : (least + most).tdiv 2 = -((-(least + most)) / 2) := by
      rw [← Int.tdiv_eq_ediv_of_nonneg (by omega), Int.neg_tdiv, Int.neg_neg]
    rw [hneg]
    omega

/-- The degradation above the smallest one, by weakness. -/
def share (f : Failing) (attributes : AttributeSet) : Int :=
  (f.mostMagnitude - f.leastMagnitude) * f.weakness attributes / f.mostWeakness

section

variable (h : f.leastMagnitude ≤ f.mostMagnitude)

include h

theorem scaled_bounds (a : AttributeSet) :
    0 ≤ (f.mostMagnitude - f.leastMagnitude) * f.weakness a ∧
      (f.mostMagnitude - f.leastMagnitude) * f.weakness a ≤
        (f.mostMagnitude - f.leastMagnitude) * f.mostWeakness := by
  obtain ⟨h0, hw⟩ := f.weakness_bounds a
  exact ⟨Int.mul_nonneg (by omega) h0, Int.mul_le_mul_of_nonneg_left hw (by omega)⟩

theorem share_bounds (hne : f.affected ≠ []) (a : AttributeSet) :
    0 ≤ f.share a ∧ f.share a ≤ f.mostMagnitude - f.leastMagnitude := by
  have hpos := mostWeakness_pos hne
  obtain ⟨h0, hm⟩ := scaled_bounds h a
  exact ⟨Int.ediv_nonneg h0 hpos.le, Int.ediv_le_of_le_mul hpos hm⟩

/-- **Where attributes are affected, the degradation is the share of the range that corresponds to
their weakness.** -/
theorem magnitudeFor_of_affected (hne : f.affected ≠ []) (a : AttributeSet) :
    f.magnitudeFor a = f.leastMagnitude + f.share a := by
  have hshare := share_bounds h hne a
  have hfold : (f.affected.map a.get).foldl (· + ·) 0 = (f.affected.map a.get).sum :=
    List.sum_eq_foldl.symm
  have hdiv : ((f.mostMagnitude - f.leastMagnitude) * f.weakness a).tdiv f.mostWeakness =
      f.share a := Int.tdiv_eq_ediv_of_nonneg (scaled_bounds h a).1
  unfold magnitudeFor
  simp only [hfold, List.isEmpty_iff, hne, if_false]
  change (if f.mostMagnitude = f.leastMagnitude then f.leastMagnitude else
    max f.leastMagnitude (min (f.leastMagnitude + ((f.mostMagnitude - f.leastMagnitude)
      * f.weakness a).tdiv f.mostWeakness) f.mostMagnitude)) = _
  rw [hdiv]
  split_ifs
  · -- a single magnitude leaves nothing to share
    omega
  · omega

/-- A failing degrades by no less than its smallest and no more than its largest degradation. -/
theorem magnitudeFor_bounds (a : AttributeSet) :
    f.leastMagnitude ≤ f.magnitudeFor a ∧ f.magnitudeFor a ≤ f.mostMagnitude := by
  by_cases hnil : f.affected = []
  · rw [magnitudeFor_of_unaffected hnil]
    exact middle_bounds h
  · rw [magnitudeFor_of_affected h hnil]
    have := share_bounds h hnil a
    omega

/-- **The stronger the affected attributes, the smaller the degradation.** -/
theorem magnitudeFor_anti (hab : ∀ x ∈ f.affected, a.get x ≤ b.get x) :
    f.magnitudeFor b ≤ f.magnitudeFor a := by
  by_cases hnil : f.affected = []
  · rw [magnitudeFor_of_unaffected hnil, magnitudeFor_of_unaffected hnil]
  · have hscaled := Int.mul_le_mul_of_nonneg_left (weakness_anti hab)
      (show 0 ≤ f.mostMagnitude - f.leastMagnitude by omega)
    have hshare := Int.ediv_le_ediv (mostWeakness_pos hnil) hscaled
    rw [magnitudeFor_of_affected h hnil, magnitudeFor_of_affected h hnil]
    exact Int.add_le_add_left hshare _

theorem magnitudeFor_of_weakest (hne : f.affected ≠ [])
    (ha : ∀ x ∈ f.affected, a.get x = leastAttribute) :
    f.magnitudeFor a = f.mostMagnitude := by
  have hw : f.weakness a = f.mostWeakness := by
    have := sum_get_of_forall ha
    unfold weakness mostWeakness mostAttribute leastAttribute at *
    omega
  have hs : f.share a = f.mostMagnitude - f.leastMagnitude := by
    unfold share
    rw [hw, Int.mul_ediv_cancel _ (mostWeakness_pos hne).ne']
  rw [magnitudeFor_of_affected h hne, hs]
  omega

theorem magnitudeFor_of_strongest (hne : f.affected ≠ [])
    (ha : ∀ x ∈ f.affected, a.get x = mostAttribute) :
    f.magnitudeFor a = f.leastMagnitude := by
  have hw : f.weakness a = 0 := by
    have := sum_get_of_forall ha
    unfold weakness mostAttribute at *
    omega
  have hs : f.share a = 0 := by
    unfold share
    rw [hw, Int.mul_zero, Int.zero_ediv]
  rw [magnitudeFor_of_affected h hne, hs, Int.add_zero]

end

/-! ### In words -/

/-- The middle of the range, in words. -/
def middleInWords? (f : Failing) : Option Int := do
  let sum ← word? 64 (f.leastMagnitude + f.mostMagnitude)
  quotientInWords? sum 2

/-- The smallest degradation and the share of the range above it, in words. -/
def scaledInWords? (f : Failing) (attributes : AttributeSet) : Option Int := do
  let count ← word? 64 f.affected.length
  let total ← sumInWords? (f.affected.map attributes.get)
  let full ← word? 64 (mostAttribute * count)
  let weakness ← word? 64 (full - total)
  let span ← word? 64 ((mostAttribute - 1) * count)
  let range ← word? 64 (f.mostMagnitude - f.leastMagnitude)
  let product ← word? 64 (range * weakness)
  let share ← quotientInWords? product span
  word? 64 (f.leastMagnitude + share)

/-- The degradation in signed words: of 64 bits on the way, of 32 bits in the end. -/
def magnitudeInWords? (f : Failing) (attributes : AttributeSet) : Option Int :=
  if f.mostMagnitude = f.leastMagnitude then
    word? 32 f.leastMagnitude
  else if f.affected.isEmpty then do
    let middle ← f.middleInWords?
    word? 32 middle
  else do
    let scaled ← f.scaledInWords? attributes
    word? 32 (max f.leastMagnitude (min scaled f.mostMagnitude))

section

variable (hl : InRange f.leastMagnitude) (hm : InRange f.mostMagnitude)

include hl hm

theorem middleInWords?_eq :
    f.middleInWords? = some ((f.leastMagnitude + f.mostMagnitude).tdiv 2) := by
  unfold InRange leastPoints mostPoints at hl hm
  have hsum : word? 64 (f.leastMagnitude + f.mostMagnitude) =
      some (f.leastMagnitude + f.mostMagnitude) := word?_eq (by omega) (by omega)
  have hhalf : ((f.leastMagnitude + f.mostMagnitude).tdiv 2).natAbs =
      (f.leastMagnitude + f.mostMagnitude).natAbs / 2 := Int.natAbs_tdiv _ 2
  unfold middleInWords? quotientInWords?
  rw [hsum, Option.bind_eq_bind, Option.bind_some, if_neg (by decide),
    word?_eq (by omega) (by omega)]

variable (h : f.leastMagnitude ≤ f.mostMagnitude)

include h

theorem scaledInWords?_eq (hne : f.affected ≠ []) (hlength : f.affected.length < 2 ^ 24)
    (a : AttributeSet) : f.scaledInWords? a = some (f.leastMagnitude + f.share a) := by
  obtain ⟨h0, hw⟩ := f.weakness_bounds a
  obtain ⟨hscaled, hfull⟩ := scaled_bounds h a
  have hpos := mostWeakness_pos hne
  have hspan : f.mostWeakness = 9 * f.affected.length := by
    unfold mostWeakness mostAttribute
    omega
  have hshare := share_bounds h hne a
  unfold InRange leastPoints mostPoints at hl hm
  -- the product is the largest number on the way: a range of 32 bits, and 9 for each attribute
  have hproduct : (f.mostMagnitude - f.leastMagnitude) * f.mostWeakness < 2 ^ 63 :=
    calc (f.mostMagnitude - f.leastMagnitude) * f.mostWeakness
      _ ≤ 2 ^ 32 * f.mostWeakness := Int.mul_le_mul_of_nonneg_right (by omega) hpos.le
      _ < 2 ^ 63 := by omega
  have hwcount : word? 64 f.affected.length = some (f.affected.length : Int) :=
    word?_eq (by omega) (by omega)
  have hwfull : word? 64 (mostAttribute * f.affected.length) =
      some (mostAttribute * f.affected.length) := by
    unfold mostAttribute
    exact word?_eq (by omega) (by omega)
  have hwweakness : word? 64 (mostAttribute * f.affected.length - (f.affected.map a.get).sum) =
      some (f.weakness a) := word?_eq (n := f.weakness a) (by omega) (by omega)
  have hwspan : word? 64 ((mostAttribute - 1) * f.affected.length) = some f.mostWeakness :=
    word?_eq (n := f.mostWeakness) (by omega) (by omega)
  have hwrange : word? 64 (f.mostMagnitude - f.leastMagnitude) =
      some (f.mostMagnitude - f.leastMagnitude) := word?_eq (by omega) (by omega)
  have hwproduct : word? 64 ((f.mostMagnitude - f.leastMagnitude) * f.weakness a) =
      some ((f.mostMagnitude - f.leastMagnitude) * f.weakness a) :=
    word?_eq (by omega) (by omega)
  have hwshare : quotientInWords? ((f.mostMagnitude - f.leastMagnitude) * f.weakness a)
      f.mostWeakness = some (f.share a) := by
    unfold quotientInWords?
    rw [if_neg hpos.ne', Int.tdiv_eq_ediv_of_nonneg hscaled]
    exact word?_eq (n := f.share a) (by omega) (by omega)
  have hwscaled : word? 64 (f.leastMagnitude + f.share a) = some (f.leastMagnitude + f.share a) :=
    word?_eq (by omega) (by omega)
  unfold scaledInWords?
  rw [Option.bind_eq_bind, hwcount, Option.bind_some, f.sumInWords?_get a hlength,
    Option.bind_some, hwfull, Option.bind_some, hwweakness, Option.bind_some, hwspan,
    Option.bind_some, hwrange, Option.bind_some, hwproduct, Option.bind_some, hwshare,
    Option.bind_some, hwscaled]

/-- **No number on the way leaves its word.** -/
theorem magnitudeInWords?_eq (hlength : f.affected.length < 2 ^ 24) (a : AttributeSet) :
    f.magnitudeInWords? a = some (f.magnitudeFor a) := by
  have hbounds := magnitudeFor_bounds h a
  have hresult : word? 32 (f.magnitudeFor a) = some (f.magnitudeFor a) := by
    refine word?_of_inRange ?_
    unfold InRange at *
    omega
  unfold magnitudeInWords?
  split_ifs with heq hnil
  · have hsingle : f.magnitudeFor a = f.leastMagnitude := by omega
    rw [← hsingle, hresult]
  · rw [middleInWords?_eq hl hm, Option.bind_eq_bind, Option.bind_some,
      ← magnitudeFor_of_unaffected (List.isEmpty_iff.1 hnil) a, hresult]
  · have hne : f.affected ≠ [] := fun hnil' => hnil (List.isEmpty_iff.2 hnil')
    have hclamp : max f.leastMagnitude (min (f.magnitudeFor a) f.mostMagnitude) =
        f.magnitudeFor a := by omega
    rw [scaledInWords?_eq hl hm h hne hlength, ← magnitudeFor_of_affected h hne a,
      Option.bind_eq_bind, Option.bind_some, hclamp, hresult]

end

/-! ### What is known of the degradation -/

/-- The degradation by a failing follows how weak a character is. -/
structure FollowsWeakness (f : Failing) : Prop where
  /-- It stays in the range, and does not grow where the affected attributes do. -/
  between : ∀ a b : AttributeSet, (∀ x ∈ f.affected, a.get x ≤ b.get x) →
    f.leastMagnitude ≤ f.magnitudeFor b ∧ f.magnitudeFor b ≤ f.magnitudeFor a ∧
      f.magnitudeFor a ≤ f.mostMagnitude
  /-- The weakest suffer the most. -/
  weakest : f.affected ≠ [] → ∀ a : AttributeSet,
    (∀ x ∈ f.affected, a.get x = leastAttribute) → f.magnitudeFor a = f.mostMagnitude
  /-- The strongest suffer the least. -/
  strongest : f.affected ≠ [] → ∀ a : AttributeSet,
    (∀ x ∈ f.affected, a.get x = mostAttribute) → f.magnitudeFor a = f.leastMagnitude
  /-- No number on the way leaves its word, as long as the list of attributes is not too long. -/
  fits : f.affected.length < 2 ^ 24 → ∀ a : AttributeSet,
    f.magnitudeInWords? a = some (f.magnitudeFor a)

/-- **Every failing with magnitudes of 32 bits follows the weakness of a character.** -/
theorem followsWeakness (f : Failing) (hl : InRange f.leastMagnitude)
    (hm : InRange f.mostMagnitude) (h : f.leastMagnitude ≤ f.mostMagnitude) :
    f.FollowsWeakness where
  between _ _ hab :=
    ⟨(magnitudeFor_bounds h _).1, magnitudeFor_anti h hab, (magnitudeFor_bounds h _).2⟩
  weakest hne _ ha := magnitudeFor_of_weakest h hne ha
  strongest hne _ ha := magnitudeFor_of_strongest h hne ha
  fits hlength a := magnitudeInWords?_eq hl hm h hlength a

end Failing

/-! ### Clumsy hands -/

namespace Clumsy

/-- A failing of any size, which counts patience twice. -/
def fumbling : Failing where
  id := "fumbling"
  severity := .major
  affected := [.patience, .stamina, .patience]
  triggers := [.always]
  modifiers := ∅
  leastMagnitude := leastPoints
  mostMagnitude := mostPoints
  appliesOnSuccess := true
  weight := 1.0
  description := ""

/-- Somebody with little patience. -/
def hasty : AttributeSet := ⟨[5, 5, 2, 5, 7, 5, 5], rfl, by decide⟩

/-- Somebody with more of it. -/
def calm : AttributeSet := ⟨[5, 5, 4, 5, 7, 5, 5], rfl, by decide⟩

/-- Over the widest range nothing overflows, and patience helps. -/
theorem calm_fumbles_less :
    InRange fumbling.leastMagnitude ∧ InRange fumbling.mostMagnitude ∧
      fumbling.leastMagnitude ≤ fumbling.mostMagnitude ∧
      fumbling.magnitudeFor calm ≤ fumbling.magnitudeFor hasty ∧
      fumbling.magnitudeInWords? hasty = some 874900744 := by
  have hl : InRange fumbling.leastMagnitude := by decide
  have hm : InRange fumbling.mostMagnitude := by decide
  have h : fumbling.leastMagnitude ≤ fumbling.mostMagnitude := by decide
  have hfollows := fumbling.followsWeakness hl hm h
  have hvalue : fumbling.magnitudeFor hasty = 874900744 := by decide
  refine ⟨hl, hm, h, (hfollows.between hasty calm (by decide)).2.1, ?_⟩
  rw [hfollows.fits (by decide) hasty, hvalue]

end Clumsy

end Reckoning
