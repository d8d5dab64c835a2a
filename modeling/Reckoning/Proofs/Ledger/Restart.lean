import Reckoning.Proofs.Ledger.JsonLines
import Reckoning.Proofs.Ledger.Reopening
import Reckoning.Proofs.Stored.Record

/-!
# What a restart leaves of appended records

A ledger in a file of JSON lines takes every record, but its reader does not give every record back.
It rounds the digits of a weight of blame, and it rounds again when it scales them, so the weight
may be read as a double beside it.  A weight that is not finite is written as null, and then the
whole history cannot be opened again.

* `ActionRecord.ReadsBack` says what a record has to have for its line to be read as it.
* `read?_write_jsonLines_iff` is what is read of a line; `readsBack_iff`: when that is the entry.
* `jsonLines_comesBack`: what a restart makes of a file.
-/

namespace Reckoning

open Json (Value)

/-! ### Numbers -/

namespace Json

theorem real_reread_eq_ok_iff {x y : Float} :
    real (Value.reread (.real x)) = .ok y ↔ Value.read? (realText x) = some (.real y) := by
  rw [Value.read?_realText, Option.some.injEq]
  have hkind := (Value.value_realText x 0 numberEnds_nil).2
  split_ifs at hkind with hx
  · rcases hkind with hv | ⟨z, hv⟩
    · rw [hv]
      exact ⟨nofun, nofun⟩
    · rw [hv]
      exact ⟨fun h => congrArg Value.real (Except.ok.inj h),
        fun h => congrArg Except.ok (Value.real.inj h)⟩
  · rw [hkind]
    exact ⟨nofun, nofun⟩

theorem read?_realText_of_not_finite {x : Float} (hx : x.isFinite = false) :
    Value.read? (realText x) = some .null := by
  have hkind := (Value.value_realText x 0 numberEnds_nil).2
  have hne : ¬ x.isFinite = true := by
    rw [hx]
    exact Bool.false_ne_true
  rw [if_neg hne] at hkind
  rw [Value.read?_realText, hkind]

end Json

/-! ### Lines -/

/-- The text of the weight of blame denotes that weight, and a leap second stands at the end of its
minute. -/
structure ActionRecord.ReadsBack (r : ActionRecord) : Prop where
  weight : Value.read? (Json.realText r.blameWeight) = some (.real r.blameWeight)
  moment : Timestamp.nanosPerSecond ≤ r.timestamp.nanos → r.timestamp.seconds % 60 = 59

section Lines

variable {e : LedgerEntry}

/-- What is read of the line of an entry, if anything is. -/
theorem read?_write_jsonLines_iff (h : e.Fits) {e' : LedgerEntry} :
    jsonLines.read? (jsonLines.write e) = some e' ↔
      ∃ x, Value.read? (Json.realText e.record.blameWeight) = some (.real x) ∧
        e' = ⟨e.id, { e.record with
          blameWeight := x, timestamp := e.record.timestamp.reread }⟩ := by
  have hread : jsonLines.read? (jsonLines.write e) =
      (LedgerEntry.ofJson e.toJson.reread).toOption := by
    change (Value.read? e.toJson.compact >>= fun v => (LedgerEntry.ofJson v).toOption) = _
    rw [Value.read?_compact (LedgerEntry.fits_toJson h)]
    rfl
  simp only [hread, LedgerEntry.ofJson_reread h, ← Json.real_reread_eq_ok_iff]
  cases Json.real (Value.reread (.real e.record.blameWeight)) with
  | error fault =>
    refine iff_of_false nofun ?_
    rintro ⟨x, hx, -⟩
    cases hx
  | ok x =>
    constructor
    · rintro ⟨⟩
      exact ⟨x, rfl, rfl⟩
    · rintro ⟨y, hy, rfl⟩
      cases hy
      rfl

theorem readable_iff (h : e.Fits) : (∃ e', jsonLines.read? (jsonLines.write e) = some e') ↔
    ∃ x, Value.read? (Json.realText e.record.blameWeight) = some (.real x) := by
  simp only [read?_write_jsonLines_iff h]
  constructor
  · rintro ⟨-, x, hx, -⟩
    exact ⟨x, hx⟩
  · rintro ⟨x, hx⟩
    exact ⟨_, x, hx, rfl⟩

theorem lined_jsonLines (h : e.Fits) : jsonLines.Lined e where
  noBreak := (isVisible_jsonLines e).notMem (by decide)
  noReturn := (isVisible_jsonLines e).notMem (by decide)
  visible := allBlank_jsonLines e
  name e' he' := by
    obtain ⟨x, -, rfl⟩ := (read?_write_jsonLines_iff h).1 he'
    rfl

/-- The line of an entry is read as that entry just when its record reads back. -/
theorem readsBack_iff (h : e.Fits) :
    jsonLines.read? (jsonLines.write e) = some e ↔ e.record.ReadsBack := by
  rw [read?_write_jsonLines_iff h]
  constructor
  · rintro ⟨x, hx, he⟩
    have hrecord := congrArg LedgerEntry.record he
    have hweight : e.record.blameWeight = x := congrArg ActionRecord.blameWeight hrecord
    have htimestamp : e.record.timestamp = e.record.timestamp.reread :=
      congrArg ActionRecord.timestamp hrecord
    exact ⟨hweight ▸ hx, (Timestamp.reread_eq_self_iff _).1 htimestamp.symm⟩
  · rintro ⟨hweight, hmoment⟩
    refine ⟨_, hweight, ?_⟩
    rw [(Timestamp.reread_eq_self_iff _).2 hmoment]

theorem unreadable_of_not_finite (h : e.Fits) (hx : e.record.blameWeight.isFinite = false) :
    jsonLines.read? (jsonLines.write e) = none := by
  rw [Option.eq_none_iff_forall_ne_some]
  intro e' he'
  obtain ⟨x, hreal⟩ := (readable_iff h).1 ⟨e', he'⟩
  rw [Json.read?_realText_of_not_finite hx] at hreal
  cases hreal

end Lines

/-! ### Files -/

theorem Index.map_record_commits (i : Index) (rs : List ActionRecord) :
    (i.commits rs).map (·.record) = rs := by
  induction rs generalizing i with
  | nil => rfl
  | cons r rs ih => rw [commits, List.map_cons, ih]

theorem Index.forall_mem_commits (i : Index) {rs : List ActionRecord} {p : ActionRecord → Prop} :
    (∀ e ∈ i.commits rs, p e.record) ↔ ∀ r ∈ rs, p r := by
  conv_rhs => rw [← i.map_record_commits rs, List.forall_mem_map]

/-- **What a restart leaves of appended records.**  Records are appended to a ledger that was
opened, and then it knows them and all that it knew before.  Its file comes back just when every new
record reads back, and it comes back as the same ledger.  It can be opened as long as every new
weight of blame is read as some number, so as soon as one of them is not finite, it cannot. -/
theorem jsonLines_comesBack {bytes : List UInt8} {l : JsonLedger}
    (hl : LineLedger.ofBytes jsonLines bytes = .ok l) {rs : List ActionRecord}
    (hrs : ∀ e ∈ l.index.commits rs, e.Fits) :
    ∃ s, Store.appendAll l rs = .ok ((l.index.commits rs).map (·.id), s) ∧
      (∀ e ∈ l.index.entries ++ l.index.commits rs, Store.get? s e.id = .ok (some e)) ∧
      (s.ComesBack ↔ ∀ r ∈ rs, r.ReadsBack) ∧
      ((∀ r ∈ rs, r.ReadsBack) → LineLedger.ofBytes jsonLines s.file = .ok s) ∧
      ((∃ l', LineLedger.ofBytes jsonLines s.file = .ok l') ↔
        ∀ r ∈ rs, ∃ x, Value.read? (Json.realText r.blameWeight) = some (.real x)) ∧
      ((∃ r ∈ rs, r.blameWeight.isFinite = false) → ∃ n, LineLedger.ofBytes jsonLines s.file =
        .error (.corrupt n (.unreadable "the line is not an entry"))) := by
  have hsettled := LineLedger.settled_ofBytes hl
  have hwell := hsettled.wellFormed
  obtain ⟨s, hs, hindex, hback, hsame, hopens, hcorrupt⟩ :=
    hsettled.comesBack_appendAll fun e he => lined_jsonLines (hrs e he)
  have hreads : (∀ e ∈ l.index.commits rs, jsonLines.read? (jsonLines.write e) = some e) ↔
      ∀ r ∈ rs, r.ReadsBack := by
    rw [← l.index.forall_mem_commits]
    exact forall₂_congr fun e he => readsBack_iff (hrs e he)
  refine ⟨s, hs, ?_, hback.trans hreads, fun hr => (hsame (hreads.2 hr)).ofBytes_file, ?_, ?_⟩
  · intro e he
    have hmem : e ∈ s.index.entries := by
      rw [hindex, hwell.mem_entries_pushAll]
      exact List.mem_append.1 he
    have hcommitted : s.index.WellFormed := hindex ▸ hwell.pushAll_commits rs
    exact congrArg Except.ok (hcommitted.get?_eq_some.2 ⟨hcommitted.mem_entries.1 hmem, rfl⟩)
  · rw [hopens, ← l.index.forall_mem_commits]
    exact forall₂_congr fun e he => readable_iff (hrs e he)
  · rintro ⟨r, hr, hx⟩
    rw [← l.index.map_record_commits rs] at hr
    obtain ⟨e, he, rfl⟩ := List.mem_map.1 hr
    exact hcorrupt ⟨e, he, unreadable_of_not_finite (hrs e he) hx⟩

/-! ### A weight that comes back as another one -/

namespace Mill

theorem fits_baked : baked.Fits where
  axes a := by cases a <;> decide
  supersedes := nofun
  timestamp := ⟨by decide, by decide⟩

/-- One more line of baking comes back. -/
theorem comesBack_baked : ∃ l s,
    LineLedger.ofBytes jsonLines ((LineLedger.holding jsonLines [baked]).file ++ [123]) = .ok l ∧
      (∀ e ∈ l.index.commits [baked], e.Fits) ∧
      Store.appendAll l [baked] = .ok ([⟨⟨7⟩, 2⟩], s) ∧
      LineLedger.ofBytes jsonLines s.file = .ok s := by
  have hbrace : LineLedger.lineBreak ∉ [123] := by decide
  have hl := LineLedger.ofBytes_holding carries_commits hbrace
  have hfits : ∀ e ∈ (LineLedger.holding jsonLines [baked]).index.commits [baked], e.Fits :=
    List.forall_mem_singleton.2 ⟨by decide, fits_baked⟩
  have hback : ∀ r ∈ [baked], r.ReadsBack := by
    have hfirst : (⟨⟨⟨7⟩, 1⟩, baked⟩ : LedgerEntry).Fits := ⟨by decide, fits_baked⟩
    have hcarries := carries_baked (.inl rfl)
    exact List.forall_mem_singleton.2 ((readsBack_iff hfirst).1 hcarries.readBack)
  obtain ⟨s, hs, -, -, hsame, -, -⟩ := jsonLines_comesBack hl hfits
  exact ⟨_, s, hl, hfits, hs, hsame hback⟩

/-- Bread was baked, and hardly anybody is to blame. -/
def faint : ActionRecord := { baked with blameWeight := 1.0000000000000001e-28 }

/-- The reader rounds the digits, and it rounds again when it divides them by a power of ten. -/
theorem read?_realText_faint : Value.read? (Json.realText faint.blameWeight) =
    some (.real 9.999999999999999e-29) := by
  have hreread : (Json.real (Value.reread (.real faint.blameWeight))).toOption =
      some 9.999999999999999e-29 := by decide +kernel
  exact Json.real_reread_eq_ok_iff.1 (toOption_eq_some_iff.1 hreread)

/-- So it is with a weight of one in eleven. -/
example : (Json.real (Value.reread (.real (1 / 11)))).toOption = some 0.09090909090909093 := by
  decide +kernel

theorem not_readsBack_faint : ¬ faint.ReadsBack := fun h => by
  have hweight := h.weight
  rw [read?_realText_faint] at hweight
  exact absurd (Value.real.inj (Option.some.inj hweight)) (by decide +kernel)

/-- The record is taken, and what the file gives when it is opened again is another one. -/
theorem not_comesBack : ¬ ∀ (bytes : List UInt8) (l : JsonLedger) (r : ActionRecord),
    LineLedger.ofBytes jsonLines bytes = .ok l → ∀ id s, Store.append l r = (.ok id, s) →
      ∃ l', LineLedger.ofBytes jsonLines s.file = .ok l' ∧
        Store.get? l' id = .ok (some ⟨id, r⟩) ∧
        ∀ id' e, Store.get? l id' = .ok (some e) → Store.get? l' id' = .ok (some e) := by
  intro hall
  have hl : LineLedger.ofBytes jsonLines [] = .ok ⟨[], ∅⟩ := rfl
  have hsettled := LineLedger.settled_ofBytes hl
  have hfits : (⟨⟨⟨7⟩, 1⟩, faint⟩ : LedgerEntry).Fits :=
    ⟨by decide, fits_baked.axes, fits_baked.supersedes, fits_baked.timestamp⟩
  have hlined : ∀ e ∈ Index.commits ∅ [faint], jsonLines.Lined e :=
    List.forall_mem_singleton.2 (lined_jsonLines hfits)
  obtain ⟨s, hs, hindex, hback, -⟩ := hsettled.comesBack_appendAll hlined
  cases hs
  obtain ⟨l', hl', hnew, -⟩ := hall _ _ _ hl _ _ rfl
  refine not_readsBack_faint ((readsBack_iff hfits).1 (hback.1 ⟨l', hl', ?_⟩ _ List.mem_cons_self))
  intro id e he
  -- the new entry is the only one there is
  have hwell := hindex ▸ hsettled.wellFormed.pushAll_commits [faint]
  obtain ⟨hmem, rfl⟩ := hwell.get?_eq_some.1 (Except.ok.inj he)
  have hentry := hwell.mem_entries.2 hmem
  rw [hindex, hsettled.wellFormed.mem_entries_pushAll] at hentry
  rcases hentry with hold | hcommitted
  · cases hold
  · cases List.mem_singleton.1 hcommitted
    exact hnew

end Mill

end Reckoning
