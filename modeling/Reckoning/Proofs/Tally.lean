import Mathlib.Algebra.Ring.Nat
import Mathlib.Data.List.Induction
import Mathlib.Data.List.Sort
import Mathlib.Data.String.Basic
import Reckoning.Tally

/-!
# What tallies count

A tally lists its texts in ascending order, each with a count above zero, so that the counts
determine the tally.

* `Tally.WellFormed` is that invariant, kept by `Tally.add` and `Tally.addAll`.
* `Tally.count_addAll` and `Tally.total_addAll`: every text is counted as often as it occurs, and
  all counts together come to the number of texts.
* `Tally.WellFormed.ext_count`: tallies with the same counts are the same.
* `Tally.IsSum`: one tally counts what two others count together.
-/

namespace Reckoning.Tally

/-- The texts that were counted. -/
def texts (t : Tally) : List String := t.rows.map (·.1)

/-- All counts together. -/
def total (t : Tally) : Nat := (t.rows.map (·.2)).sum

/-- The texts ascend, and each was counted. -/
structure WellFormed (t : Tally) : Prop where
  ascends : t.rows.Pairwise (·.1 < ·.1)
  counted : ∀ row ∈ t.rows, 0 < row.2

theorem wellFormed_empty : WellFormed ∅ := ⟨List.Pairwise.nil, nofun⟩

/-! ### Rows -/

@[simp] theorem count_empty (text : String) : count ∅ text = 0 := rfl

theorem count_cons (row : String × Nat) (rows : List (String × Nat)) (text : String) :
    count ⟨row :: rows⟩ text = if row.1 = text then row.2 else count ⟨rows⟩ text := by
  unfold count
  by_cases h : row.1 = text
  · simp [h]
  · simp [h]

theorem count_eq_zero_of_lt {rows : List (String × Nat)} {text : String}
    (h : ∀ row ∈ rows, text < row.1) : count ⟨rows⟩ text = 0 := by
  induction rows with
  | nil => rfl
  | cons row rows ih =>
    rw [List.forall_mem_cons] at h
    rw [count_cons, if_neg h.1.ne', ih h.2]

theorem mem_texts_addRow {rows : List (String × Nat)} {text s : String} :
    s ∈ (addRow text rows).map (·.1) ↔ s = text ∨ s ∈ rows.map (·.1) := by
  induction rows with
  | nil => simp [addRow]
  | cons row rows ih =>
    unfold addRow
    split_ifs with hlt heq
    · simp
    · simp [heq]
    · rw [List.map_cons, List.mem_cons, ih, List.map_cons, List.mem_cons, or_left_comm]

theorem lt_of_mem_addRow {rows : List (String × Nat)} {text s : String} (hs : s < text)
    (h : ∀ row ∈ rows, s < row.1) : ∀ row ∈ addRow text rows, s < row.1 := by
  intro row hrow
  obtain heq | hold := mem_texts_addRow.1 (List.mem_map_of_mem hrow)
  · exact heq ▸ hs
  · obtain ⟨old, hmem, hold⟩ := List.mem_map.1 hold
    exact hold ▸ h old hmem

theorem WellFormed.tail {row : String × Nat} {rows : List (String × Nat)}
    (h : WellFormed ⟨row :: rows⟩) : WellFormed ⟨rows⟩ :=
  ⟨h.ascends.of_cons, fun r hr => h.counted r (List.mem_cons_of_mem _ hr)⟩

theorem WellFormed.head_lt {row : String × Nat} {rows : List (String × Nat)}
    (h : WellFormed ⟨row :: rows⟩) : ∀ r ∈ rows, row.1 < r.1 :=
  (List.pairwise_cons.1 h.ascends).1

theorem WellFormed.cons {row : String × Nat} {rows : List (String × Nat)}
    (hlt : ∀ r ∈ rows, row.1 < r.1) (hpos : 0 < row.2) (h : WellFormed ⟨rows⟩) :
    WellFormed ⟨row :: rows⟩ :=
  ⟨List.pairwise_cons.2 ⟨hlt, h.ascends⟩, List.forall_mem_cons.2 ⟨hpos, h.counted⟩⟩

/-! ### One more text -/

theorem WellFormed.add {t : Tally} (h : t.WellFormed) (text : String) :
    (t.add text).WellFormed := by
  obtain ⟨rows⟩ := t
  change WellFormed ⟨addRow text rows⟩
  induction rows with
  | nil => exact .cons nofun Nat.one_pos wellFormed_empty
  | cons row rows ih =>
    have hpos : 0 < row.2 := h.counted row List.mem_cons_self
    unfold addRow
    split_ifs with hlt heq
    · refine .cons (List.forall_mem_cons.2 ⟨hlt, fun r hr => ?_⟩) Nat.one_pos h
      exact hlt.trans (h.head_lt r hr)
    · exact .cons h.head_lt (Nat.succ_pos _) h.tail
    · have hgt : row.1 < text := lt_of_le_of_ne (not_lt.1 hlt) (Ne.symm heq)
      exact .cons (lt_of_mem_addRow hgt h.head_lt) hpos (ih h.tail)

theorem count_add {t : Tally} (h : t.WellFormed) (text s : String) :
    (t.add text).count s = t.count s + if text = s then 1 else 0 := by
  obtain ⟨rows⟩ := t
  change count ⟨addRow text rows⟩ s = _
  induction rows with
  | nil => rw [addRow, count_cons]; simp [count]
  | cons row rows ih =>
    unfold addRow
    by_cases hlt : text < row.1
    · -- the text was in no row
      have hnew : count ⟨row :: rows⟩ text = 0 := count_eq_zero_of_lt
        (List.forall_mem_cons.2 ⟨hlt, fun r hr => hlt.trans (h.head_lt r hr)⟩)
      rw [if_pos hlt, count_cons]
      by_cases hs : text = s
      · rw [if_pos hs, if_pos hs, ← hs, hnew]
      · rw [if_neg hs, if_neg hs, Nat.add_zero]
    rw [if_neg hlt]
    by_cases heq : text = row.1
    · rw [if_pos heq, count_cons, count_cons, ← heq]
      by_cases hs : text = s
      · rw [if_pos hs, if_pos hs, if_pos hs]
      · rw [if_neg hs, if_neg hs, if_neg hs, Nat.add_zero]
    · rw [if_neg heq, count_cons, count_cons, ih h.tail]
      by_cases hs : row.1 = s
      · have hne : text ≠ s := fun h => heq (h.trans hs.symm)
        rw [if_pos hs, if_pos hs, if_neg hne, Nat.add_zero]
      · rw [if_neg hs, if_neg hs]

theorem total_add (t : Tally) (text : String) : (t.add text).total = t.total + 1 := by
  obtain ⟨rows⟩ := t
  change ((addRow text rows).map (·.2)).sum = (rows.map (·.2)).sum + 1
  induction rows with
  | nil => rfl
  | cons row rows ih =>
    unfold addRow
    split_ifs with hlt heq
    · simp only [List.map_cons, List.sum_cons]
      omega
    · simp only [List.map_cons, List.sum_cons]
      omega
    · simp only [List.map_cons, List.sum_cons, ih]
      omega

/-! ### Some texts -/

theorem addAll_concat (t : Tally) (ss : List String) (s : String) :
    t.addAll (ss ++ [s]) = (t.addAll ss).add s := by
  unfold addAll
  rw [List.foldl_append]
  rfl

theorem addAll_append (t : Tally) (ss us : List String) :
    t.addAll (ss ++ us) = (t.addAll ss).addAll us := List.foldl_append

theorem WellFormed.addAll {t : Tally} (h : t.WellFormed) (ss : List String) :
    (t.addAll ss).WellFormed := by
  induction ss using List.reverseRecOn with
  | nil => exact h
  | append_singleton ss s ih =>
    rw [addAll_concat]
    exact ih.add s

/-- Every text is counted as often as it occurs. -/
theorem count_addAll {t : Tally} (h : t.WellFormed) (ss : List String) (s : String) :
    (t.addAll ss).count s = t.count s + ss.count s := by
  induction ss using List.reverseRecOn with
  | nil => rfl
  | append_singleton ss u ih =>
    rw [addAll_concat, count_add (h.addAll ss), ih, List.count_append, List.count_singleton,
      Nat.add_assoc]
    simp only [beq_iff_eq]

theorem count_addAll_empty (ss : List String) (s : String) :
    (addAll ∅ ss).count s = ss.count s := by
  rw [count_addAll wellFormed_empty, count_empty, Nat.zero_add]

/-- Counted by their names, things of one kind are counted. -/
theorem count_addAll_map {α κ : Type} [DecidableEq κ] {name : κ → String}
    (h : Function.Injective name) (kind : α → κ) (xs : List α) (k : κ) :
    (addAll ∅ (xs.map fun x => name (kind x))).count (name k) = xs.countP (kind · = k) := by
  rw [count_addAll_empty, List.count_eq_countP, List.countP_map]
  refine List.countP_congr fun x _ => ?_
  rw [Function.comp_apply, beq_iff_eq, h.eq_iff, decide_eq_true_iff]

theorem total_addAll (t : Tally) (ss : List String) :
    (t.addAll ss).total = t.total + ss.length := by
  induction ss using List.reverseRecOn with
  | nil => rfl
  | append_singleton ss s ih =>
    rw [addAll_concat, total_add, ih, List.length_append, List.length_singleton, Nat.add_assoc]

/-! ### Counts determine tallies -/

theorem WellFormed.mem_rows {t : Tally} (h : t.WellFormed) {row : String × Nat} :
    row ∈ t.rows ↔ t.count row.1 = row.2 ∧ 0 < row.2 := by
  obtain ⟨rows⟩ := t
  induction rows with
  | nil =>
    refine iff_of_false List.not_mem_nil fun hc => ?_
    exact absurd hc.1 hc.2.ne
  | cons first rows ih =>
    rw [List.mem_cons, count_cons, ih h.tail]
    split_ifs with heq
    · -- further down every text is larger
      have hzero : count ⟨rows⟩ row.1 = 0 := heq ▸ count_eq_zero_of_lt h.head_lt
      constructor
      · rintro (rfl | ⟨hc, hpos⟩)
        · exact ⟨rfl, h.counted _ List.mem_cons_self⟩
        · omega
      · exact fun hc => .inl (Prod.ext heq.symm hc.1.symm)
    · exact or_iff_right fun hrow => heq (by rw [hrow])

theorem WellFormed.mem_texts {t : Tally} (h : t.WellFormed) {s : String} :
    s ∈ t.texts ↔ 0 < t.count s := by
  unfold texts
  rw [List.mem_map]
  constructor
  · rintro ⟨row, hrow, rfl⟩
    obtain ⟨hc, hpos⟩ := h.mem_rows.1 hrow
    exact hc ▸ hpos
  · exact fun hpos => ⟨(s, t.count s), h.mem_rows.2 ⟨rfl, hpos⟩, rfl⟩

/-- **Tallies that count alike are the same.** -/
theorem WellFormed.ext_count {t u : Tally} (ht : t.WellFormed) (hu : u.WellFormed)
    (h : ∀ s, t.count s = u.count s) : t = u := by
  have nodup {v : Tally} (hv : v.WellFormed) : v.rows.Nodup :=
    hv.ascends.imp fun hlt heq => hlt.ne (congrArg (·.1) heq)
  have hperm : t.rows.Perm u.rows := by
    rw [List.perm_ext_iff_of_nodup (nodup ht) (nodup hu)]
    intro row
    rw [ht.mem_rows, hu.mem_rows, h]
  have hrows : t.rows = u.rows :=
    hperm.eq_of_pairwise (fun _ _ _ _ hab hba => absurd hba hab.not_gt) ht.ascends hu.ascends
  obtain ⟨rows⟩ := t
  exact congrArg Tally.mk hrows

/-- One tally counts what two others count together. -/
structure IsSum (t u v : Tally) : Prop where
  counts : ∀ s, t.count s = u.count s + v.count s
  texts : ∀ s, s ∈ t.texts ↔ s ∈ u.texts ∨ s ∈ v.texts

theorem isSum_addAll (ss us : List String) :
    IsSum (addAll ∅ (ss ++ us)) (addAll ∅ ss) (addAll ∅ us) := by
  have hcounts (s : String) :
      (addAll ∅ (ss ++ us)).count s = (addAll ∅ ss).count s + (addAll ∅ us).count s := by
    simp only [count_addAll_empty, List.count_append]
  refine ⟨hcounts, fun s => ?_⟩
  rw [(wellFormed_empty.addAll _).mem_texts, (wellFormed_empty.addAll _).mem_texts,
    (wellFormed_empty.addAll _).mem_texts, hcounts]
  omega

theorem addAll_eq_of_perm {ss us : List String} (h : ss.Perm us) : addAll ∅ ss = addAll ∅ us := by
  refine (wellFormed_empty.addAll ss).ext_count (wellFormed_empty.addAll us) fun s => ?_
  rw [count_addAll_empty, count_addAll_empty, h.count_eq]

end Reckoning.Tally
