import Mathlib.Data.List.Induction
import Reckoning.Proofs.Character
import Reckoning.Proofs.Stored.Record
import Reckoning.Stored.Character

/-!
# Stored characters that are read again

A character that is stored comes back as it was, and whatever else is found in its place is a
character only if it keeps the rules.

* `Json.Holds` says that a member is there once and is read as something; `StoredCharacter` is a
  character as it is stored, before any rule is looked at, and `StoredCharacter.IsFormOf` says what
  its stored forms are.
* `StoredCharacter.IsFormOf.ofJson_eq_ok_iff`: a stored form is read as the character that is stored
  in it, if there is one; `StoredCharacter.exists_stored_iff`: when there is one.
* `StoredCharacter.IsFormOf.ofJson_eq_repeated_iff`: the trait that is reported is the first that
  repeats an earlier one.
* `Character.changeAll` takes a character through changes and through storage, and
  `Character.stored_faithfully` puts all of it together.
-/

namespace Reckoning

open Json (Decoder Value)

/-! ### Members -/

namespace Json

variable {α : Type}

/-- One member has the name, no other one has, and its value is read as `a`. -/
def Holds (d : Decoder α) (ms : List (String × Value)) (name : String) (a : α) : Prop :=
  ∃ v, ms.filter (·.1 == name) = [(name, v)] ∧ d v = .ok a

/-- The members of a record with some fields: those of a table, or the elements of a list with one
for each field. -/
def membersOf? (names : List String) : Value → Option (List (String × Value))
  | .table ms => some ms
  | .list vs => if vs.length = names.length then some (names.zip vs) else none
  | _ => none

theorem record_of_membersOf? {m : Members α} {v : Value} {ms : List (String × Value)}
    (h : membersOf? m.names v = some ms) : record m v = (m.run ms).mapError (·.2) := by
  cases v with
  | table members =>
    cases h
    rfl
  | list vs =>
    unfold membersOf? at h
    simp only at h
    split_ifs at h with hlength
    cases h
    unfold record
    simp only
    cases m.run (m.names.zip vs) with
    | error e => rfl
    | ok a => exact if_neg (by omega)
  | _ => cases h

namespace Members

theorem map_fst_named (name : String) (ms : List (String × Value)) :
    (named name ms).map (·.1) = (ms.filter (·.1 == name)).map (·.2) := by
  unfold named
  generalize 0 = start
  induction ms generalizing start with
  | nil => rfl
  | cons m ms ih =>
    rw [List.zipIdx_cons, List.filterMap_cons, List.filter_cons]
    cases m.1 == name with
    | false => exact ih _
    | true => exact congrArg (m.2 :: ·) (ih _)

/-- A field is read by its decoder.  A fault gets the place of its member. -/
theorem exists_run_required {β : Type} {d : Decoder α} {f : Decoder β}
    {ms : List (String × Value)} {name : String} {a : α} {r : Except Fault β}
    (h : Holds d ms name a) (hr : ∀ v, d v = .ok a → f v = r) :
    ∃ i, (required name f).run ms = r.mapError (i, ·) := by
  obtain ⟨v, hv, hd⟩ := h
  have hmap := map_fst_named name ms
  rw [hv, List.map_singleton, List.map_eq_singleton_iff] at hmap
  obtain ⟨⟨v', i⟩, hnamed, rfl⟩ := hmap
  refine ⟨i, ?_⟩
  unfold required field
  simp only [hnamed, hr _ hd]
  cases r <;> rfl

theorem run_required {d : Decoder α} {ms : List (String × Value)} {name : String} {a : α}
    (h : Holds d ms name a) : (required name d).run ms = .ok a := by
  obtain ⟨i, hi⟩ := exists_run_required (f := d) h fun v hv => hv
  exact hi

end Members

end Json

/-! ### What is stored -/

/-- A character as it is stored, before any rule is looked at. -/
structure StoredCharacter where
  id : CharacterId
  account : String
  sex : Sex
  attributes : List Int
  quirks : List DefId
  failings : List DefId
  uselessBits : List DefId
  reputation : Reputation
  active : Bool
  issuedSeed : String
  createdAt : Timestamp

/-- What is stored of a character. -/
def Character.stored (c : Character) : StoredCharacter :=
  { c.toSheet with attributes := c.attributes.values, active := c.active }

namespace StoredCharacter

/-- The members of a record tell a character: every field is there once, and each has a value of
its type. -/
structure IsToldBy (s : StoredCharacter) (ms : List (String × Value)) : Prop where
  id : Json.Holds CharacterId.ofJson ms "id" s.id
  account : Json.Holds Json.text ms "account_ref" s.account
  sex : Json.Holds (Json.oneOf Sex.ofName?) ms "sex" s.sex
  attributes : Json.Holds (Json.list Json.int32) ms "attributes" s.attributes
  seven : s.attributes.length = 7
  quirks : Json.Holds (Json.list DefId.ofJson) ms "quirks" s.quirks
  failings : Json.Holds (Json.list DefId.ofJson) ms "failings" s.failings
  uselessBits : Json.Holds (Json.list DefId.ofJson) ms "useless_bits" s.uselessBits
  reputation : Json.Holds Reputation.ofJson ms "reputation" s.reputation
  active : Json.Holds Json.bool ms "active" s.active
  issuedSeed : Json.Holds Json.text ms "issued_seed" s.issuedSeed
  createdAt : Json.Holds Timestamp.ofJson ms "created_at" s.createdAt

/-- The fields in their own order. -/
def fields : List String :=
  ["id", "account_ref", "sex", "attributes", "quirks", "failings", "useless_bits", "reputation",
    "active", "issued_seed", "created_at"]

/-- The value is a stored form of the character. -/
def IsFormOf (s : StoredCharacter) (v : Value) : Prop :=
  ∃ ms, Json.membersOf? fields v = some ms ∧ s.IsToldBy ms

/-- The character keeps the rules. -/
structure Lawful (s : StoredCharacter) : Prop where
  attributes : ∀ n ∈ s.attributes, 1 ≤ n ∧ n ≤ 10
  quirkCount : 2 ≤ s.quirks.length ∧ s.quirks.length ≤ 4
  uselessBits : s.uselessBits ≠ []
  distinct : (s.quirks ++ s.failings ++ s.uselessBits).Nodup

end StoredCharacter

/-! ### Admission -/

namespace StoredCharacter

variable {s : StoredCharacter} {v : Value} {ms : List (String × Value)}

/-- The sheet that is stored, with attributes that were admitted. -/
def sheet (s : StoredCharacter) (attributes : AttributeSet) : Sheet := { s with attributes }

/-- The character that is stored, or the first rule that it breaks. -/
def toCharacter (s : StoredCharacter) (seven : s.attributes.length = 7) :
    Except RuleError Character := do
  let attributes ← AttributeSet.ofValues s.attributes seven
  let c ← Character.ofSheet (s.sheet attributes)
  return if s.active then c else c.deactivate

theorem toCharacter_eq_ok_iff (seven : s.attributes.length = 7) {c : Character} :
    s.toCharacter seven = .ok c ↔ c.stored = s := by
  unfold toCharacter
  constructor
  · intro h
    obtain ⟨as, has, h⟩ := bind_eq_ok_iff.1 h
    obtain ⟨⟨sheet, active, sound⟩, hnew, h⟩ := bind_eq_ok_iff.1 h
    obtain ⟨rfl, rfl⟩ := Character.ofSheet_eq_ok_iff.1 hnew
    obtain rfl := Except.ok.inj h
    obtain ⟨id, account, sex, attributes, quirks, failings, uselessBits, reputation, active,
      issuedSeed, createdAt⟩ := s
    obtain rfl : as.values = attributes := AttributeSet.values_of_ofValues has
    cases active <;> rfl
  · rintro rfl
    have hnew : Character.ofSheet c.toSheet = .ok ⟨c.toSheet, true, c.sound⟩ :=
      Character.ofSheet_eq_ok_iff.2 ⟨rfl, rfl⟩
    refine bind_eq_ok_iff.2 ⟨c.attributes, AttributeSet.ofValues_eq_ok_iff.2 rfl, ?_⟩
    refine bind_eq_ok_iff.2 ⟨_, hnew, congrArg Except.ok ?_⟩
    obtain ⟨sheet, active, sound⟩ := c
    cases active <;> rfl

/-- Some character is stored just when the rules are kept. -/
theorem exists_stored_iff (seven : s.attributes.length = 7) :
    (∃ c : Character, c.stored = s) ↔ s.Lawful := by
  constructor
  · rintro ⟨c, rfl⟩
    obtain ⟨hcount, hempty, hn⟩ := traitFault?_eq_none_iff.1 c.sound
    exact ⟨c.attributes.bounds, hcount, hempty, hn⟩
  · intro h
    have hsound := traitFault?_eq_none_iff.2 ⟨h.quirkCount, h.uselessBits, h.distinct⟩
    exact ⟨⟨s.sheet ⟨s.attributes, seven, h.attributes⟩, s.active, hsound⟩, rfl⟩

/-- The traits are looked at when the attributes are admitted. -/
theorem toCharacter_eq_error_iff (seven : s.attributes.length = 7) {fault : TraitFault} :
    s.toCharacter seven = .error (.invalidCharacter fault) ↔
      (∀ n ∈ s.attributes, 1 ≤ n ∧ n ≤ 10) ∧
        traitFault? s.quirks s.failings s.uselessBits = some fault := by
  change _ ↔ (∀ n ∈ s.attributes, leastAttribute ≤ n ∧ n ≤ mostAttribute) ∧ _
  rw [← AttributeSet.exists_ofValues_iff seven]
  unfold toCharacter
  cases has : AttributeSet.ofValues s.attributes seven with
  | error e =>
    have hne : e ≠ .invalidCharacter fault := by
      rintro rfl
      exact AttributeSet.ofValues_ne_invalidCharacter seven _ has
    simp [bind, Except.bind, hne]
  | ok as =>
    have hsheet : Character.ofSheet (s.sheet as) = .error (.invalidCharacter fault) ↔
        traitFault? s.quirks s.failings s.uselessBits = some fault :=
      Character.ofSheet_eq_error_iff
    cases hnew : Character.ofSheet (s.sheet as) <;> rw [hnew] at hsheet <;>
      simpa [bind, Except.bind, pure, Except.pure, hnew] using hsheet

theorem IsToldBy.ofJson_attributes (h : s.IsToldBy ms) {v : Value}
    (hv : Json.list Json.int32 v = .ok s.attributes) :
    AttributeSet.ofJson v = Json.ofRule (AttributeSet.ofValues s.attributes h.seven) := by
  unfold AttributeSet.ofJson
  rw [hv]
  exact dif_pos h.seven

/-- Of the members that tell a character, only the attributes can be at fault. -/
theorem IsToldBy.exists_run_members (h : s.IsToldBy ms) :
    ∃ i : Nat, Character.members.run ms =
      ((AttributeSet.ofValues s.attributes h.seven).mapError fun e => (i, .rule e)).map
        fun as => (s.sheet as, s.active) := by
  obtain ⟨i, hi⟩ := Json.Members.exists_run_required h.attributes fun v => h.ofJson_attributes
  refine ⟨i, ?_⟩
  cases ha : AttributeSet.ofValues s.attributes h.seven <;> rw [ha] at hi <;>
    simp [Character.members, hi, Json.ofRule, Except.mapError, Except.map,
      Json.Members.run_required h.id, Json.Members.run_required h.account,
      Json.Members.run_required h.sex, Json.Members.run_required h.quirks,
      Json.Members.run_required h.failings, Json.Members.run_required h.uselessBits,
      Json.Members.run_required h.reputation, Json.Members.run_required h.active,
      Json.Members.run_required h.issuedSeed, Json.Members.run_required h.createdAt, sheet]

/-- A stored form is read as the character that is stored in it, or breaks a rule as that does. -/
theorem IsFormOf.ofJson_eq (h : s.IsFormOf v) :
    ∃ seven : s.attributes.length = 7, Character.ofJson v = Json.ofRule (s.toCharacter seven) := by
  obtain ⟨ms, hms, htold⟩ := h
  obtain ⟨i, hi⟩ := htold.exists_run_members
  refine ⟨htold.seven, ?_⟩
  unfold Character.ofJson toCharacter
  rw [Json.record_of_membersOf? (m := Character.members) hms, hi]
  cases AttributeSet.ofValues s.attributes htold.seven with
  | error e => rfl
  | ok as =>
    cases hc : Character.ofSheet (s.sheet as) <;>
    simp [bind, Except.bind, Except.map, Except.mapError, Json.ofRule, hc]
    rfl

/-- **A stored form is read as the character that is stored in it, if there is one.** -/
theorem IsFormOf.ofJson_eq_ok_iff (h : s.IsFormOf v) {c : Character} :
    Character.ofJson v = .ok c ↔ c.stored = s := by
  obtain ⟨seven, hv⟩ := h.ofJson_eq
  rw [hv, ← toCharacter_eq_ok_iff seven]
  cases s.toCharacter seven <;> simp [Json.ofRule]

/-- The repetition that is reported is the first. -/
theorem IsFormOf.ofJson_eq_repeated_iff (h : s.IsFormOf v) {id : DefId} :
    Character.ofJson v = .error (.rule (.invalidCharacter (.repeated id.text))) ↔
      (∀ n ∈ s.attributes, 1 ≤ n ∧ n ≤ 10) ∧ (2 ≤ s.quirks.length ∧ s.quirks.length ≤ 4) ∧
        s.uselessBits ≠ [] ∧ ∃ before after,
          s.quirks ++ s.failings ++ s.uselessBits = before ++ id :: after ∧ before.Nodup ∧
            id ∈ before := by
  obtain ⟨seven, hv⟩ := h.ofJson_eq
  rw [hv, ← firstRepeated?_eq_some_iff, ← traitFault?_eq_repeated_iff,
    ← toCharacter_eq_error_iff seven]
  cases s.toCharacter seven <;> simp [Json.ofRule]

end StoredCharacter

/-! ### Written and read -/

theorem Sex.ofName?_name (s : Sex) : ofName? s.name = some s := by
  cases s <;> rfl

theorem Reputation.ofJson_toJson {r : Reputation} (h : InRange r.score) :
    ofJson r.toJson = .ok r := by
  simp [ofJson, toJson, Json.record, Json.Members.required, Json.Members.field,
    Json.Members.named, Json.int32_int h, Json.text, Except.mapError]

theorem AttributeSet.list_toJson (as : AttributeSet) :
    Json.list Json.int32 as.toJson = .ok as.values := by
  refine Json.list_map fun n hn => Json.int32_int ?_
  have hbounds := as.bounds n hn
  unfold leastAttribute mostAttribute at hbounds
  unfold InRange leastPoints mostPoints
  omega

namespace Character

variable {c : Character}

/-- What is written of a character is a form of what is stored of it. -/
theorem isFormOf_toJson (hscore : InRange c.reputation.score)
    (hmoment : Timestamp.read? c.createdAt.write = some c.createdAt) :
    c.stored.IsFormOf c.toJson := by
  have hcreatedAt : Timestamp.ofJson c.createdAt.toJson = .ok c.createdAt := by
    unfold Timestamp.toJson Timestamp.ofJson
    simp only [hmoment]
    rfl
  have hids (ids : List DefId) : Json.list DefId.ofJson (.list (ids.map DefId.toJson)) = .ok ids :=
    Json.list_map fun _ _ => rfl
  exact ⟨_, rfl, {
    id := ⟨_, rfl, c.id.ofJson_toJson⟩
    account := ⟨_, rfl, rfl⟩
    sex := ⟨_, rfl, Json.oneOf_text c.sex.ofName?_name⟩
    attributes := ⟨_, rfl, c.attributes.list_toJson⟩
    seven := c.attributes.length_eq
    quirks := ⟨_, rfl, hids _⟩
    failings := ⟨_, rfl, hids _⟩
    uselessBits := ⟨_, rfl, hids _⟩
    reputation := ⟨_, rfl, Reputation.ofJson_toJson hscore⟩
    active := ⟨_, rfl, rfl⟩
    issuedSeed := ⟨_, rfl, rfl⟩
    createdAt := ⟨_, rfl, hcreatedAt⟩ }⟩

theorem ofJson_toJson (hscore : InRange c.reputation.score)
    (hmoment : Timestamp.read? c.createdAt.write = some c.createdAt) :
    ofJson c.toJson = .ok c :=
  (isFormOf_toJson hscore hmoment).ofJson_eq_ok_iff.2 rfl

end Character

/-! ### Changes -/

/-- What may happen to a character: a new reputation, its retirement, or that it is stored and read
again. -/
inductive CharacterChange
  | rate (reputation : Reputation)
  | retire
  | reload
deriving DecidableEq

/-- The reputation that a change brings. -/
def CharacterChange.rating? : CharacterChange → Option Reputation
  | rate reputation => some reputation
  | retire => none
  | reload => none

namespace Character

variable {c : Character}

/-- The character after a change. -/
def change (c : Character) : CharacterChange → Except Json.Fault Character
  | .rate reputation => .ok (c.withReputation reputation)
  | .retire => .ok c.deactivate
  | .reload => ofJson c.toJson

/-- The character after some changes. -/
def changeAll (c : Character) (ks : List CharacterChange) : Except Json.Fault Character :=
  ks.foldlM change c

/-- The character with the last reputation that it was given, and retired if it ever was. -/
def changed (c : Character) (ks : List CharacterChange) : Character :=
  { c with
    reputation := ((ks.filterMap (·.rating?)).getLast?).getD c.reputation
    active := c.active && decide (.retire ∉ ks)
    sound := c.sound }

theorem inRange_changed (hscore : InRange c.reputation.score) {ks : List CharacterChange}
    (hks : ∀ r, .rate r ∈ ks → InRange r.score) : InRange (c.changed ks).reputation.score := by
  unfold changed
  simp only
  cases hlast : (ks.filterMap (·.rating?)).getLast? with
  | none => exact hscore
  | some r =>
    obtain ⟨k, hk, hr⟩ := List.mem_filterMap.1 (List.mem_of_getLast? hlast)
    cases k <;> cases hr
    exact hks r hk

/-- Whatever happens to a character, storage neither stops it nor loses anything. -/
theorem changeAll_eq (hscore : InRange c.reputation.score)
    (hmoment : Timestamp.read? c.createdAt.write = some c.createdAt) {ks : List CharacterChange}
    (hks : ∀ r, .rate r ∈ ks → InRange r.score) : c.changeAll ks = .ok (c.changed ks) := by
  induction ks using List.reverseRecOn with
  | nil =>
    obtain ⟨sheet, active, sound⟩ := c
    simp [changeAll, changed, pure, Except.pure]
  | append_singleton ks k ih =>
    have hbefore : ∀ r, .rate r ∈ ks → InRange r.score := fun r hr =>
      hks r (List.mem_append_left _ hr)
    have hchange : (c.changed ks).change k = .ok (c.changed (ks ++ [k])) := by
      cases k with
      | rate r => simp [change, changed, withReputation, CharacterChange.rating?]
      | retire => simp [change, changed, deactivate, CharacterChange.rating?]
      | reload =>
        have hsame : c.changed (ks ++ [.reload]) = c.changed ks := by
          simp [changed, CharacterChange.rating?]
        rw [hsame]
        exact ofJson_toJson (inRange_changed hscore hbefore) hmoment
    unfold changeAll
    rw [List.foldlM_append]
    exact bind_eq_ok_iff.2 ⟨_, ih hbefore, by simpa using hchange⟩

/-- **A stored character comes back, and nothing else does.**  Whatever happens to a character after
it was made, its stored form is read as the same character; and a stored form with every field is
read exactly when it keeps the rules, as what is stored in it, and otherwise the first trait that
repeats an earlier one is reported. -/
theorem stored_faithfully :
    (∀ (sheet : Sheet) (c : Character) (ks : List CharacterChange), ofSheet sheet = .ok c →
      Timestamp.read? sheet.createdAt.write = some sheet.createdAt →
      InRange sheet.reputation.score → (∀ r, .rate r ∈ ks → InRange r.score) →
      c.changeAll ks = .ok (c.changed ks) ∧
      ofJson (c.changed ks).toJson = .ok (c.changed ks) ∧
      ((c.changed ks).active = true ↔ CharacterChange.retire ∉ ks)) ∧
    (∀ (s : StoredCharacter) (v : Value), s.IsFormOf v →
      ((∃ c, ofJson v = .ok c) ↔ s.Lawful) ∧ (∀ c, ofJson v = .ok c ↔ c.stored = s) ∧
      ∀ id : DefId, ofJson v = .error (.rule (.invalidCharacter (.repeated id.text))) ↔
        (∀ n ∈ s.attributes, 1 ≤ n ∧ n ≤ 10) ∧ (2 ≤ s.quirks.length ∧ s.quirks.length ≤ 4) ∧
          s.uselessBits ≠ [] ∧ ∃ before after,
            s.quirks ++ s.failings ++ s.uselessBits = before ++ id :: after ∧ before.Nodup ∧
              id ∈ before) := by
  constructor
  · intro sheet c ks hc hmoment hscore hks
    obtain ⟨rfl, hactive⟩ := ofSheet_eq_ok_iff.1 hc
    refine ⟨changeAll_eq hscore hmoment hks,
      ofJson_toJson (inRange_changed hscore hks) hmoment, ?_⟩
    simp [changed, hactive]
  · intro s v h
    have hiff (c : Character) : ofJson v = .ok c ↔ c.stored = s := h.ofJson_eq_ok_iff
    obtain ⟨ms, -, htold⟩ := id h
    refine ⟨?_, hiff, fun id => h.ofJson_eq_repeated_iff⟩
    rw [exists_congr hiff, StoredCharacter.exists_stored_iff htold.seven]

end Character

/-! ### A baker on file -/

namespace Archive

/-- A baker who was issued during a leap second. -/
def baker : Sheet where
  id := ⟨7⟩
  account := "mill"
  sex := .female
  attributes := ⟨[9, 2, 3, 4, 5, 1, 3], rfl, by decide⟩
  quirks := ["calm", "vain"]
  failings := ["late"]
  uselessBits := ["hums"]
  reputation := ⟨0, ""⟩
  issuedSeed := "dawn"
  createdAt := ⟨1483228799, 1500000000⟩

/-- She burns the bread and retires, and is read from her file in between. -/
def career : List CharacterChange :=
  [.reload, .rate ⟨-3, "burnt the bread"⟩, .reload, .retire, .reload]

/-- A file on which one of her quirks became a failing as well. -/
def doubled : StoredCharacter :=
  { baker with
    attributes := baker.attributes.values, failings := ["late", "vain"], active := false }

/-- The file, with its fields in another order and a note on it. -/
def file : Value := .table [
  ("note", .null),
  ("useless_bits", .texts ["hums"]),
  ("failings", .texts ["late", "vain"]),
  ("quirks", .texts ["calm", "vain"]),
  ("attributes", .list [.int 9, .int 2, .int 3, .int 4, .int 5, .int 1, .int 3]),
  ("sex", .text "female"),
  ("id", .int 7),
  ("account_ref", .text "mill"),
  ("active", .bool false),
  ("created_at", .text "2016-12-31T23:59:60.5Z"),
  ("issued_seed", .text "dawn"),
  ("reputation", .list [.int 0, .text ""])]

theorem isFormOf_file : doubled.IsFormOf file :=
  ⟨_, rfl, {
    id := ⟨_, rfl, rfl⟩
    account := ⟨_, rfl, rfl⟩
    sex := ⟨_, rfl, rfl⟩
    attributes := ⟨_, rfl, rfl⟩
    seven := rfl
    quirks := ⟨_, rfl, rfl⟩
    failings := ⟨_, rfl, rfl⟩
    uselessBits := ⟨_, rfl, rfl⟩
    reputation := ⟨_, rfl, rfl⟩
    active := ⟨_, rfl, rfl⟩
    issuedSeed := ⟨_, rfl, rfl⟩
    createdAt := ⟨_, rfl, by decide +kernel⟩ }⟩

/-- She comes back from her file, and is not let in twice as vain. -/
theorem comes_back :
    (∃ c, Character.ofSheet baker = .ok c ∧
      c.changeAll career = .ok (c.changed career) ∧
      Character.ofJson (c.changed career).toJson = .ok (c.changed career) ∧
      (c.changed career).active = false) ∧
    Character.ofJson file = .error (.rule (.invalidCharacter (.repeated "vain"))) := by
  have hmoment : Timestamp.read? baker.createdAt.write = some baker.createdAt :=
    (Timestamp.read?_write_eq_self_iff ⟨by decide, by decide⟩).2 fun _ => rfl
  have hnew : Character.ofSheet baker = .ok ⟨baker, true, by decide⟩ := rfl
  have hcareer : ∀ r, .rate r ∈ career → InRange r.score := by
    simp [career, InRange, leastPoints, mostPoints]
  obtain ⟨hchanges, hback, hactive⟩ :=
    Character.stored_faithfully.1 baker _ career hnew hmoment (by decide) hcareer
  refine ⟨⟨_, hnew, hchanges, hback, ?_⟩, ?_⟩
  · exact Bool.eq_false_iff.2 fun h => hactive.1 h (by decide)
  · obtain ⟨-, -, hrepeated⟩ := Character.stored_faithfully.2 doubled file isFormOf_file
    exact (hrepeated "vain").2
      ⟨by decide, by decide, by decide, ["calm", "vain", "late"], ["hums"], rfl, by decide,
        by decide⟩

end Archive

end Reckoning
