import Reckoning.Proofs.Json.Rereading
import Reckoning.Proofs.Results
import Reckoning.Proofs.Timestamp.Text
import Reckoning.Stored.Record

/-!
# Stored entries that are read again

Every part of an entry is read from its stored form as it was, but for two: the weight of blame is
read as whatever its digits mean to the reader, and a leap second in the middle of a minute becomes
the next second.

* `ActionRecord.Fits` and `LedgerEntry.Fits` say that the numbers of a record and of an entry fit
  into the words in which they are kept.
* `ActionRecord.ofJson_toJsonWith` reads a record with any value in the place of the weight.
* `LedgerEntry.fits_toJson` and `LedgerEntry.ofJson_reread`: what is read of an entry that was
  written.
-/

namespace Reckoning

open Json (Value)

namespace Json

/-! ### Decoders -/

theorem int32_int {n : Int} (h : InRange n) : int32 (.int n) = .ok n := if_pos h

theorem word_toNat (w : UInt64) : word (.int w.toNat) = .ok w := by
  have hw := w.toNat_lt
  have hbounds : (0 : Int) ≤ w.toNat ∧ (w.toNat : Int) ≤ 0xFFFFFFFFFFFFFFFF := by omega
  unfold word intBetween
  simp only [if_pos hbounds]
  change Except.ok (((w.toNat : Int)).toNat.toUInt64) = _
  rw [Int.toNat_natCast, Nat.toUInt64_eq, UInt64.ofNat_toNat]

theorem oneOf_text {α : Type} {ofName? : String → Option α} {s : String} {a : α}
    (h : ofName? s = some a) : oneOf ofName? (.text s) = .ok a := by
  change (ofName? s).elim (Except.error Fault.form) Except.ok = _
  rw [h]
  rfl

theorem list_map {α : Type} {d : Decoder α} {f : α → Value} {as : List α}
    (h : ∀ a ∈ as, d (f a) = .ok a) : list d (.list (as.map f)) = .ok as :=
  mapM_eq_ok_iff.2 (List.forall₂_map_left_iff.2 (List.forall₂_same.2 h))

theorem nullable_map {α : Type} {d : Decoder α} {f : α → Value} {a : Option α}
    (h : ∀ x, a = some x → d (f x) = .ok x ∧ f x ≠ .null) :
    nullable d ((a.map f).getD .null) = .ok a := by
  cases a with
  | none => rfl
  | some x =>
    obtain ⟨hx, hne⟩ := h x rfl
    rw [Option.map_some, Option.getD_some, nullable, hx]
    · rfl
    · exact hne

namespace Members

variable {α β : Type}

@[simp] theorem run_map (f : α → β) (m : Members α) (ms : List (String × Value)) :
    (f <$> m).run ms = f <$> m.run ms := rfl

@[simp] theorem run_seq (f : Members (α → β)) (m : Members α) (ms : List (String × Value)) :
    (f <*> m).run ms = both (f.run ms) (m.run ms) := rfl

@[simp] theorem both_ok (f : α → β) (a : α) : both (.ok f) (.ok a) = .ok (f a) := rfl

@[simp] theorem both_error_ok (e : Nat × Fault) (a : α) :
    both (.error e : Except (Nat × Fault) (α → β)) (.ok a) = .error e := rfl

@[simp] theorem both_ok_error (f : α → β) (e : Nat × Fault) : both (.ok f) (.error e) = .error e :=
  rfl

end Members

end Json

/-! ### Parts of a record -/

theorem CharacterId.ofJson_toJson (c : CharacterId) : ofJson c.toJson = .ok c := by
  unfold ofJson toJson wordToJson
  rw [Json.word_toNat]
  rfl

theorem ItemId.ofJson_toJson (i : ItemId) : ofJson i.toJson = .ok i := by
  unfold ofJson toJson wordToJson
  rw [Json.word_toNat]
  rfl

theorem LedgerId.ofJson_toJson {l : LedgerId} (h : l.seq < 2 ^ 64) : ofJson l.toJson = .ok l := by
  have hnat : l.seq.toUInt64.toNat = l.seq := by
    rw [Nat.toUInt64_eq, UInt64.toNat_ofNat_of_lt' h]
  have hseq : Json.word (.int l.seq) = .ok l.seq.toUInt64 := by
    have hback := Json.word_toNat l.seq.toUInt64
    rwa [hnat] at hback
  simp [ofJson, toJson, Json.record, Json.Members.required, Json.Members.field,
    Json.Members.named, CharacterId.ofJson_toJson, hseq, hnat, Except.mapError]

theorem AxisResult.ofJson_toJson {r : AxisResult} (hbase : InRange r.base)
    (hdeviation : InRange r.deviation) (hfinal : InRange r.final) :
    ofJson r.toJson = .ok r := by
  simp [ofJson, toJson, Json.record, Json.Members.required, Json.Members.field,
    Json.Members.named, Json.int32_int, hbase, hdeviation, hfinal, Except.mapError]

theorem AxisResults.ofJson_toJson {r : AxisResults}
    (h : ∀ a, AxisResult.ofJson (r.get a).toJson = .ok (r.get a)) : ofJson (toJson r) = .ok r := by
  simp [ofJson, toJson, Json.record, Json.Members.required, Json.Members.field,
    Json.Members.named, PerAxis.toList, Axis.all, Axis.name, h, Except.mapError]
  rfl

theorem Outcome.ofName?_name (o : Outcome) : ofName? o.name = some o := by
  cases o <;> rfl

theorem Interpretation.ofName?_name (i : Interpretation) : ofName? i.name = some i := by
  cases i <;> rfl

/-! ### Records -/

/-- The numbers of a record fit into the words in which they are kept. -/
structure ActionRecord.Fits (r : ActionRecord) : Prop where
  axes : ∀ a, InRange (r.axes.get a).base ∧ InRange (r.axes.get a).deviation ∧
    InRange (r.axes.get a).final
  supersedes : ∀ id, r.supersedes = some id → id.seq < 2 ^ 64
  timestamp : r.timestamp.InUse

/-- The stored form of a record with some value in the place of the weight of blame. -/
def ActionRecord.toJsonWith (r : ActionRecord) (weight : Value) : Value := .table [
  ("character", r.character.toJson),
  ("action", r.action.toJson),
  ("room", r.room.toJson),
  ("items_used", .list (r.itemsUsed.map ItemId.toJson)),
  ("unarmed", .bool r.unarmed),
  ("rushed", .bool r.rushed),
  ("axes", AxisResults.toJson r.axes),
  ("outcome", .text r.outcome.name),
  ("contributing_factors", .list (r.factors.map DefId.toJson)),
  ("interpretation", .text r.interpretation.name),
  ("blame_weight", weight),
  ("seed", .text r.seed),
  ("derived_seed", wordToJson r.derivedSeed),
  ("supersedes", (r.supersedes.map LedgerId.toJson).getD .null),
  ("timestamp", r.timestamp.toJson)]

theorem ActionRecord.ofJson_toJsonWith {r : ActionRecord} (h : r.Fits) (weight : Value) :
    ofJson (r.toJsonWith weight) = (Json.real weight).map fun x =>
      { r with blameWeight := x, timestamp := r.timestamp.reread } := by
  have haxes : AxisResults.ofJson (AxisResults.toJson r.axes) = .ok r.axes :=
    AxisResults.ofJson_toJson fun a =>
      AxisResult.ofJson_toJson (h.axes a).1 (h.axes a).2.1 (h.axes a).2.2
  have hitems : Json.list ItemId.ofJson (.list (r.itemsUsed.map ItemId.toJson)) = .ok r.itemsUsed :=
    Json.list_map fun i _ => i.ofJson_toJson
  have hfactors : Json.list DefId.ofJson (.list (r.factors.map DefId.toJson)) = .ok r.factors :=
    Json.list_map fun _ _ => rfl
  have hsupersedes : Json.nullable LedgerId.ofJson
      ((r.supersedes.map LedgerId.toJson).getD .null) = .ok r.supersedes :=
    Json.nullable_map fun id hid => ⟨LedgerId.ofJson_toJson (h.supersedes id hid), nofun⟩
  have htimestamp : Timestamp.ofJson r.timestamp.toJson = .ok r.timestamp.reread := by
    unfold Timestamp.toJson Timestamp.ofJson
    simp only [Timestamp.read?_write h.timestamp]
    rfl
  have haction : DefId.ofJson r.action.toJson = .ok r.action := rfl
  have hroom : RoomId.ofJson r.room.toJson = .ok r.room := rfl
  have hseed : Json.word (wordToJson r.derivedSeed) = .ok r.derivedSeed := Json.word_toNat _
  have houtcome := Json.oneOf_text r.outcome.ofName?_name
  have hinterpretation := Json.oneOf_text r.interpretation.ofName?_name
  -- the weight is the only part that can be at fault
  cases hweight : Json.real weight <;>
    simp [ofJson, toJsonWith, Json.record, Json.Members.required, Json.Members.optional,
      Json.Members.field, Json.Members.named, haxes, hitems, hfactors, hsupersedes, htimestamp,
      haction, hroom, hseed, houtcome, hinterpretation, hweight, CharacterId.ofJson_toJson,
      Json.bool, Json.text, Except.map, Except.mapError]

/-! ### Written and read -/

namespace Json.Value

theorem rereadItems_map {α : Type} {f : α → Value} (h : ∀ a, (f a).reread = f a) (as : List α) :
    rereadItems (as.map f) = as.map f := by
  induction as with
  | nil => rfl
  | cons a as ih => rw [List.map_cons, rereadItems, h, ih]

theorem fitItems_map {α : Type} {f : α → Value} (h : ∀ a, (f a).Fits) (as : List α) :
    FitItems (as.map f) := by
  induction as with
  | nil => trivial
  | cons a as ih => exact ⟨h a, ih⟩

end Json.Value

theorem fits_wordToJson (w : UInt64) : (wordToJson w).Fits := by
  have hw := w.toNat_lt
  unfold wordToJson Value.Fits
  omega

theorem LedgerId.fits_toJson {l : LedgerId} (h : l.seq < 2 ^ 64) : l.toJson.Fits := by
  have hseq : (Value.int l.seq).Fits := by
    unfold Value.Fits
    omega
  exact ⟨fits_wordToJson _, hseq, trivial⟩

theorem ActionRecord.fits_toJson {r : ActionRecord} (h : r.Fits) : r.toJson.Fits := by
  have hint : ∀ k, InRange k → (Value.int k).Fits := by
    intro k hk
    unfold InRange leastPoints mostPoints at hk
    unfold Value.Fits
    omega
  have hitems := Value.fitItems_map (f := ItemId.toJson) (fun i => fits_wordToJson i.raw)
    r.itemsUsed
  have hfactors := Value.fitItems_map (f := DefId.toJson) (fun _ => trivial) r.factors
  have haxis : ∀ a, (r.axes.get a).toJson.Fits := fun a =>
    ⟨hint _ (h.axes a).1, hint _ (h.axes a).2.1, hint _ (h.axes a).2.2, trivial⟩
  have haxes : (AxisResults.toJson r.axes).Fits :=
    ⟨haxis .timing, haxis .precision, haxis .stability, haxis .visibility,
      haxis .interpretability, haxis .recoveryCost, trivial⟩
  have hsupersedes : ((r.supersedes.map LedgerId.toJson).getD .null).Fits := by
    cases hs : r.supersedes with
    | none => trivial
    | some id => exact LedgerId.fits_toJson (h.supersedes id hs)
  unfold toJson
  exact ⟨fits_wordToJson _, trivial, trivial, hitems, trivial, trivial, haxes, trivial, hfactors,
    trivial, trivial, trivial, fits_wordToJson _, hsupersedes, trivial, trivial⟩

theorem ActionRecord.reread_toJson (r : ActionRecord) :
    r.toJson.reread = r.toJsonWith (Value.reread (.real r.blameWeight)) := by
  have hitems := Value.rereadItems_map (f := ItemId.toJson) (fun _ => rfl) r.itemsUsed
  have hfactors := Value.rereadItems_map (f := DefId.toJson) (fun _ => rfl) r.factors
  have hsupersedes : ((r.supersedes.map LedgerId.toJson).getD .null).reread =
      (r.supersedes.map LedgerId.toJson).getD .null := by
    cases r.supersedes <;> rfl
  have hcharacter : r.character.toJson.reread = r.character.toJson := rfl
  have haction : r.action.toJson.reread = r.action.toJson := rfl
  have hroom : r.room.toJson.reread = r.room.toJson := rfl
  have haxes : (AxisResults.toJson r.axes).reread = AxisResults.toJson r.axes := rfl
  have hseed : (wordToJson r.derivedSeed).reread = wordToJson r.derivedSeed := rfl
  have htimestamp : r.timestamp.toJson.reread = r.timestamp.toJson := rfl
  unfold toJson toJsonWith
  simp only [Value.reread, Value.rereadMembers, hitems, hfactors, hsupersedes, hcharacter,
    haction, hroom, haxes, hseed, htimestamp]

/-! ### Entries -/

/-- The numbers of an entry fit into the words in which they are kept. -/
structure LedgerEntry.Fits (e : LedgerEntry) : Prop where
  seq : e.id.seq < 2 ^ 64
  record : e.record.Fits

theorem LedgerEntry.fits_toJson {e : LedgerEntry} (h : e.Fits) : e.toJson.Fits :=
  ⟨LedgerId.fits_toJson h.seq, ActionRecord.fits_toJson h.record, trivial⟩

/-- What is read of an entry that was written. -/
theorem LedgerEntry.ofJson_reread {e : LedgerEntry} (h : e.Fits) :
    ofJson e.toJson.reread = (Json.real (Value.reread (.real e.record.blameWeight))).map fun x =>
      ⟨e.id, { e.record with blameWeight := x, timestamp := e.record.timestamp.reread }⟩ := by
  have hid := LedgerId.ofJson_toJson h.seq
  have hrecord :=
    ActionRecord.ofJson_toJsonWith h.record (Value.reread (.real e.record.blameWeight))
  have hreread : e.toJson.reread = .table [("id", e.id.toJson),
      ("record", e.record.toJsonWith (Value.reread (.real e.record.blameWeight)))] := by
    rw [← ActionRecord.reread_toJson]
    rfl
  rw [hreread]
  cases hweight : Json.real (Value.reread (.real e.record.blameWeight)) <;>
    simp [ofJson, Json.record, Json.Members.required, Json.Members.field, Json.Members.named, hid,
      hrecord, hweight, Except.map, Except.mapError]

end Reckoning
