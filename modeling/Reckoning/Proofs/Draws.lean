import Reckoning.Proofs.Generator
import Reckoning.Proofs.PositiveSum

/-!
# Draws by weight

A draw by weight finds something as soon as one weight is above zero, whatever fraction of the total
is drawn and however it is rounded, and what it finds has a weight above zero.  The other weights may
be anything, even no numbers.

* `Generator.pickBetween_bounds`: a number that is drawn lies between its bounds.
* `Generator.exists_of_walkWeights` and `Generator.exists_lastWeighted` follow the two ways in which
  an index is found.
* `Generator.weighted_of_none` and `Generator.exists_weighted`: without a weight above zero there is
  no draw, with one it finds a weight above zero and takes one word.
-/

namespace Reckoning

namespace Generator

theorem pickBetween_bounds (g : Generator) {low high : Nat} (h : low ≤ high) :
    low ≤ (g.pickBetween low high).1 ∧ (g.pickBetween low high).1 ≤ high := by
  unfold pickBetween
  split
  · constructor <;> simp only <;> omega
  · have := Nat.mod_lt g.next.1.toNat (by omega : 0 < high - low + 1)
    simp only [below]
    omega

variable {weights : List Float}

/-- A walk ends at a weight above zero. -/
theorem exists_of_walkWeights {threshold : Float} {start i : Nat}
    (h : walkWeights threshold start weights = some i) :
    ∃ n w, i = start + n ∧ weights[n]? = some w ∧ 0.0 < w := by
  induction weights generalizing threshold start with
  | nil => cases h
  | cons w rest ih =>
    have later {threshold : Float} (h : walkWeights threshold (start + 1) rest = some i) :
        ∃ n v, i = start + n ∧ (w :: rest)[n]? = some v ∧ 0.0 < v := by
      obtain ⟨n, v, hi, hv, hpos⟩ := ih h
      exact ⟨n + 1, v, by omega, hv, hpos⟩
    unfold walkWeights at h
    simp only at h
    split_ifs at h with hskip hstop
    · exact later h
    · cases h
      exact ⟨0, w, rfl, rfl, zero_lt_of_sub_lt_zero hskip hstop⟩
    · exact later h

/-- The index that a walk falls back to, should rounding leave it without one. -/
theorem exists_lastWeighted {w : Float} (hw : w ∈ weights) (hpos : 0.0 < w) :
    ∃ i v, lastWeighted weights = some i ∧ weights[i]? = some v ∧ 0.0 < v := by
  obtain ⟨n, hn⟩ := List.getElem?_of_mem hw
  have hmem : (w, n) ∈ weights.zipIdx.filter (0.0 < ·.1) :=
    List.mem_filter.2 ⟨List.mk_mem_zipIdx_iff_getElem?.2 hn, by simpa using hpos⟩
  obtain ⟨last, hlast⟩ := Option.isSome_iff_exists.1
    (List.getLast?_isSome.2 (List.ne_nil_of_mem hmem))
  obtain ⟨hl, hpos'⟩ := List.mem_filter.1 (List.mem_of_getLast? hlast)
  refine ⟨last.2, last.1, by rw [lastWeighted, hlast]; rfl, ?_, by simpa using hpos'⟩
  exact List.mk_mem_zipIdx_iff_getElem?.1 hl

theorem weighted_of_none (g : Generator) (h : ∀ w ∈ weights, ¬0.0 < w) :
    g.weighted weights = (none, g) := by
  have htotal : totalWeight weights ≤ 0.0 := by
    have hnil : weights.filter (0.0 < ·) = [] := by simpa [List.filter_eq_nil_iff] using h
    rw [totalWeight, hnil, List.foldl_nil, le_zero_iff]
    rfl
  unfold weighted
  simp [htotal]

/-- **With a weight above zero, a draw by weight finds one, and takes one word.** -/
theorem exists_weighted (g : Generator) {w : Float} (hw : w ∈ weights) (hpos : 0.0 < w) :
    ∃ i v, g.weighted weights = (some i, g.advance 1) ∧ weights[i]? = some v ∧ 0.0 < v := by
  have hne : weights.isEmpty = false := List.isEmpty_eq_false_iff_exists_mem.2 ⟨w, hw⟩
  unfold weighted
  simp only [hne, not_totalWeight_le_zero hw hpos, decide_false, Bool.or_self, Bool.false_eq_true,
    if_false, snd_fraction]
  cases hwalk : walkWeights (g.fraction.1 * totalWeight weights) 0 weights with
  | none =>
    obtain ⟨i, v, hlast, hv, hv0⟩ := exists_lastWeighted hw hpos
    exact ⟨i, v, by rw [hlast], hv, hv0⟩
  | some i =>
    obtain ⟨n, v, hi, hv, hv0⟩ := exists_of_walkWeights hwalk
    rw [Nat.zero_add] at hi
    exact ⟨i, v, rfl, hi ▸ hv, hv0⟩

end Generator

end Reckoning
