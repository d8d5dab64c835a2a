import Mathlib.Algebra.BigOperators.Group.List.Lemmas
import Mathlib.Data.List.Count
import Mathlib.Data.List.Induction
import Reckoning.Engine.Attempt
import Reckoning.Ledger.Audit
import Reckoning.Proofs.Attempt.Factors
import Reckoning.Proofs.Tally

/-!
# What audits count

An audit goes through the entries once and counts into several tallies.  Each of its numbers is one
count over the entries, so audits add up, and the order of the entries does not matter.

* `Audit.of_eq`: every field of an audit as one count.
* `Audit.IsSum` and `Audit.CountsLike` compare the counts of audits.
* `Audit.count_factors_of`: where no entry names a factor twice, the tally of factors and
  `countFactor` agree.
* `Audit.CountsOnce` is what an audit counts, and `Audit.countsOnce` says that every audit counts
  it.
-/

namespace Reckoning

theorem Outcome.name_injective : Function.Injective Outcome.name := by
  intro o p h
  cases o <;> cases p <;> first | rfl | exact absurd h (by decide)

theorem Interpretation.name_injective : Function.Injective Interpretation.name := by
  intro i j h
  cases i <;> cases j <;> first | rfl | exact absurd h (by decide)

/-- The resolver made the record, perhaps with a link to an earlier entry. -/
def ActionRecord.IsResolved (r : ActionRecord) : Prop :=
  ∃ (library : Library) (a : Attempt) (threshold : Float) (link : Option LedgerId),
    r = { a.record library threshold with supersedes := link }

theorem ActionRecord.IsResolved.nodup_factors {r : ActionRecord} (h : r.IsResolved) :
    r.factors.Nodup := by
  obtain ⟨library, a, threshold, link, rfl⟩ := h
  exact nodup_ids_firstOfEach (a.participants library)

namespace Audit

variable (es : List LedgerEntry)

/-! ### The fields of an audit -/

theorem of_concat (e : LedgerEntry) : of (es ++ [e]) = (of es).add e := by
  unfold of
  rw [List.foldl_append]
  rfl

/-- Every field of an audit is one pass over the entries. -/
theorem of_eq : of es =
    { total := es.length
      outcomes := .addAll ∅ (es.map (·.record.outcome.name))
      interpretations := .addAll ∅ (es.map (·.record.interpretation.name))
      factors := .addAll ∅ (es.flatMap fun e => e.record.factors.map DefId.text)
      retries := es.countP (·.record.supersedes.isSome)
      unarmed := es.countP (·.record.unarmed)
      blameSum := (es.map (·.record.blameWeight)).foldl (· + ·) 0.0 } := by
  have counted (n : Nat) (p : Bool) :
      (n + if p = true then 1 else 0) = if p = true then n + 1 else n := by
    cases p <;> rfl
  induction es using List.reverseRecOn with
  | nil => rfl
  | append_singleton es e ih =>
    rw [of_concat, ih]
    simp only [add, counted, List.length_append, List.length_singleton, List.map_append,
      List.map_singleton, List.flatMap_append, List.flatMap_singleton, Tally.addAll_append,
      List.countP_append, List.countP_singleton, List.foldl_concat]
    rfl

theorem total_of : (of es).total = es.length := by rw [of_eq]

theorem outcomes_of : (of es).outcomes = .addAll ∅ (es.map (·.record.outcome.name)) := by
  rw [of_eq]

theorem interpretations_of :
    (of es).interpretations = .addAll ∅ (es.map (·.record.interpretation.name)) := by rw [of_eq]

theorem factors_of :
    (of es).factors = .addAll ∅ (es.flatMap fun e => e.record.factors.map DefId.text) := by
  rw [of_eq]

theorem retries_of : (of es).retries = es.countP (·.record.supersedes.isSome) := by rw [of_eq]

theorem unarmed_of : (of es).unarmed = es.countP (·.record.unarmed) := by rw [of_eq]

/-! ### Counts by kind -/

theorem outcomeCount_of (o : Outcome) :
    (of es).outcomeCount o = es.countP (·.record.outcome = o) := by
  unfold outcomeCount
  rw [outcomes_of]
  exact Tally.count_addAll_map Outcome.name_injective (·.record.outcome) es o

theorem interpretationCount_of (i : Interpretation) :
    (of es).interpretationCount i = es.countP (·.record.interpretation = i) := by
  unfold interpretationCount
  rw [interpretations_of]
  exact Tally.count_addAll_map Interpretation.name_injective (·.record.interpretation) es i

theorem sum_indicator {κ : Type} [DecidableEq κ] (kinds : List κ) (kind : κ) :
    (kinds.map fun k => if kind = k then 1 else 0).sum = kinds.count kind := by
  induction kinds with
  | nil => rfl
  | cons k kinds ih =>
    rw [List.map_cons, List.sum_cons, ih, List.count_cons, Nat.add_comm]
    simp only [beq_iff_eq, @eq_comm _ kind]

/-- Counting by kinds counts everything once, where each kind is listed once. -/
theorem sum_countP_kinds {α κ : Type} [DecidableEq κ] {kinds : List κ} (kind : α → κ)
    (h : ∀ k, kinds.count k = 1) (xs : List α) :
    (kinds.map fun k => xs.countP (kind · = k)).sum = xs.length := by
  induction xs with
  | nil => simp
  | cons x xs ih =>
    simp only [List.countP_cons, decide_eq_true_eq, List.sum_map_add, ih, sum_indicator, h,
      List.length_cons]

/-! ### Factors -/

/-- A factor that is named at most once in each entry is counted once for each entry that names
it. -/
theorem count_factors_of (h : ∀ e ∈ es, e.record.factors.Nodup) (f : DefId) :
    (of es).factors.count f.text = countFactor es f := by
  have htext : Function.Injective DefId.text := fun a b hab => by
    cases a
    exact congrArg DefId.mk hab
  rw [factors_of, Tally.count_addAll_empty]
  unfold countFactor
  induction es with
  | nil => rfl
  | cons e es ih =>
    rw [List.forall_mem_cons] at h
    rw [List.flatMap_cons, List.count_append, List.count_map_of_injective _ _ htext, ih h.2,
      List.countP_cons, Nat.add_comm, h.1.count]
    simp only [List.contains_iff_mem]

/-! ### Audits together -/

/-- One audit counts what two others count together. -/
structure IsSum (a b c : Audit) : Prop where
  total : a.total = b.total + c.total
  outcomes : a.outcomes.IsSum b.outcomes c.outcomes
  interpretations : a.interpretations.IsSum b.interpretations c.interpretations
  factors : a.factors.IsSum b.factors c.factors
  retries : a.retries = b.retries + c.retries
  unarmed : a.unarmed = b.unarmed + c.unarmed

/-- Two audits count alike. -/
structure CountsLike (a b : Audit) : Prop where
  total : a.total = b.total
  outcomes : a.outcomes = b.outcomes
  interpretations : a.interpretations = b.interpretations
  factors : a.factors = b.factors
  retries : a.retries = b.retries
  unarmed : a.unarmed = b.unarmed

theorem isSum_of_append (es ds : List LedgerEntry) : (of (es ++ ds)).IsSum (of es) (of ds) where
  total := by rw [total_of, total_of, total_of, List.length_append]
  outcomes := by
    rw [outcomes_of, outcomes_of, outcomes_of, List.map_append]
    exact Tally.isSum_addAll _ _
  interpretations := by
    rw [interpretations_of, interpretations_of, interpretations_of, List.map_append]
    exact Tally.isSum_addAll _ _
  factors := by
    rw [factors_of, factors_of, factors_of, List.flatMap_append]
    exact Tally.isSum_addAll _ _
  retries := by rw [retries_of, retries_of, retries_of, List.countP_append]
  unarmed := by rw [unarmed_of, unarmed_of, unarmed_of, List.countP_append]

theorem countsLike_of_perm {es ds : List LedgerEntry} (h : es.Perm ds) :
    (of es).CountsLike (of ds) where
  total := by rw [total_of, total_of, h.length_eq]
  outcomes := by
    rw [outcomes_of, outcomes_of]
    exact Tally.addAll_eq_of_perm (h.map _)
  interpretations := by
    rw [interpretations_of, interpretations_of]
    exact Tally.addAll_eq_of_perm (h.map _)
  factors := by
    rw [factors_of, factors_of]
    exact Tally.addAll_eq_of_perm (h.flatMap_right _)
  retries := by rw [retries_of, retries_of, h.countP_eq]
  unarmed := by rw [unarmed_of, unarmed_of, h.countP_eq]

/-- What the audit of some entries counts. -/
structure CountsOnce (es : List LedgerEntry) : Prop where
  total : (of es).total = es.length
  /-- The tallies of outcomes and interpretations count every entry. -/
  outcomes : (of es).outcomes.total = (of es).total
  interpretations : (of es).interpretations.total = (of es).total
  /-- So do the counts of all outcomes and of all interpretations together. -/
  outcomeCounts : (Outcome.all.map (of es).outcomeCount).sum = (of es).total
  interpretationCounts : (Interpretation.all.map (of es).interpretationCount).sum = (of es).total
  outcomeCount : ∀ o, (of es).outcomeCount o = es.countP (·.record.outcome = o)
  interpretationCount :
    ∀ i, (of es).interpretationCount i = es.countP (·.record.interpretation = i)
  avoidable : (avoidableEntries es).length = (of es).interpretationCount .avoidable
  retries : (of es).retries = es.countP (·.record.supersedes.isSome)
  unarmed : (of es).unarmed = es.countP (·.record.unarmed)
  /-- With more entries behind, both parts are counted. -/
  append : ∀ ds, (of (es ++ ds)).IsSum (of es) (of ds)
  /-- The order does not matter. -/
  perm : ∀ ds, es.Perm ds → (of es).CountsLike (of ds)
  /-- Both ways to count a factor agree where no entry names one twice. -/
  factors : (∀ e ∈ es, e.record.factors.Nodup) →
    ∀ f, (of es).factors.count f.text = countFactor es f
  /-- No entry that the resolver made names one twice. -/
  resolved : (∀ e ∈ es, e.record.IsResolved) →
    ∀ f, (of es).factors.count f.text = countFactor es f

/-- **An audit counts every entry once, and audits add up.** -/
theorem countsOnce (es : List LedgerEntry) : CountsOnce es where
  total := total_of es
  outcomes := by
    rw [outcomes_of, Tally.total_addAll, List.length_map, total_of]
    exact Nat.zero_add _
  interpretations := by
    rw [interpretations_of, Tally.total_addAll, List.length_map, total_of]
    exact Nat.zero_add _
  outcomeCounts := by
    rw [funext (outcomeCount_of es), total_of]
    exact sum_countP_kinds _ (fun o => by cases o <;> rfl) es
  interpretationCounts := by
    rw [funext (interpretationCount_of es), total_of]
    exact sum_countP_kinds _ (fun i => by cases i <;> rfl) es
  outcomeCount := outcomeCount_of es
  interpretationCount := interpretationCount_of es
  avoidable := by
    rw [interpretationCount_of, List.countP_eq_length_filter]
    rfl
  retries := retries_of es
  unarmed := unarmed_of es
  append := isSum_of_append es
  perm _ := countsLike_of_perm
  factors := count_factors_of es
  resolved h := count_factors_of es fun e he => (h e he).nodup_factors

end Audit

end Reckoning
