import Mathlib.Data.List.Induction
import Mathlib.Tactic.SplitIfs

/-!
# Tables of comma-separated fields

The usual grammar: fields stand between commas and records end in a newline.  A field is written as
it is where it has no special character, or in quotes with every quote in it doubled.

* `Csv.IsField`, `Csv.IsRecord` and `Csv.IsTable` are the grammar, as relations between a text and
  what it says.
* `Csv.read` is a reader, one character at a time (`Csv.Reader.step?`).
* `Csv.read_eq_some_iff`: the reader finds the records of a table, and only of a table, so that a
  text is a table in one way at most.
-/

namespace Reckoning.Csv

/-! ### The grammar -/

/-- The characters that only a field in quotes may have. -/
def special : List Char := ['"', ',', '\n', '\r']

/-- Every quote is doubled. -/
def doubled (cs : List Char) : List Char := cs.flatMap fun c => if c = '"' then ['"', '"'] else [c]

/-- A text is a field that says something. -/
inductive IsField : List Char → List Char → Prop
  | bare {cs : List Char} (h : ∀ c ∈ cs, c ∉ special) : IsField cs cs
  | quoted (cs : List Char) : IsField ('"' :: doubled cs ++ ['"']) cs

/-- A text is a record with some fields, at least one. -/
inductive IsRecord : List Char → List (List Char) → Prop
  | last {s f : List Char} (h : IsField s f) : IsRecord (s ++ ['\n']) [f]
  | more {s f t : List Char} {fs : List (List Char)} (h : IsField s f) (rest : IsRecord t fs) :
    IsRecord (s ++ ',' :: t) (f :: fs)

/-- A text is a table with some records. -/
inductive IsTable : List Char → List (List (List Char)) → Prop
  | nil : IsTable [] []
  | cons {s t : List Char} {r : List (List Char)} {rs : List (List (List Char))}
    (h : IsRecord s r) (rest : IsTable t rs) : IsTable (s ++ t) (r :: rs)

theorem isRecord_intercalate {texts fs : List (List Char)} (h : List.Forall₂ IsField texts fs)
    (hne : texts ≠ []) : IsRecord ([','].intercalate texts ++ ['\n']) fs := by
  induction h with
  | nil => exact absurd rfl hne
  | cons hfirst hrest ih =>
    cases hrest with
    | nil =>
      rw [List.intercalate_singleton]
      exact .last hfirst
    | cons _ _ =>
      rw [List.intercalate_cons_cons, List.append_assoc, List.append_assoc, List.singleton_append]
      exact .more hfirst (ih (List.cons_ne_nil _ _))

/-! ### The reader -/

/-- Where a reader stands in a field, with what it knows of it. -/
inductive Place
  /-- Before or in a field without quotes. -/
  | bare (cs : List Char)
  /-- Between quotes. -/
  | quoted (cs : List Char)
  /-- Behind a quote, which ends the field unless another one follows. -/
  | closed (cs : List Char)
deriving DecidableEq

/-- A reader, with the records that it has found and the fields of the next one. -/
structure Reader where
  records : List (List (List Char))
  fields : List (List Char)
  place : Place

namespace Reader

/-- A field has ended. -/
def endField (r : Reader) (f : List Char) : Reader := ⟨r.records, r.fields ++ [f], .bare []⟩

/-- A field has ended, and with it the record. -/
def endRecord (r : Reader) (f : List Char) : Reader :=
  ⟨r.records ++ [r.fields ++ [f]], [], .bare []⟩

/-- Read one character. -/
def step? (r : Reader) (c : Char) : Option Reader :=
  match r.place with
  | .bare cs =>
    if c = ',' then some (r.endField cs)
    else if c = '\n' then some (r.endRecord cs)
    else if c = '"' then if cs = [] then some { r with place := .quoted [] } else none
    else if c = '\r' then none
    else some { r with place := .bare (cs ++ [c]) }
  | .quoted cs =>
    if c = '"' then some { r with place := .closed cs }
    else some { r with place := .quoted (cs ++ [c]) }
  | .closed cs =>
    if c = ',' then some (r.endField cs)
    else if c = '\n' then some (r.endRecord cs)
    else if c = '"' then some { r with place := .quoted (cs ++ ['"']) }
    else none

/-- Read some characters. -/
def steps? (r : Reader) (cs : List Char) : Option Reader := cs.foldlM step? r

/-- The records, where the last one has ended. -/
def finish? (r : Reader) : Option (List (List (List Char))) :=
  if r.fields = [] ∧ r.place = .bare [] then some r.records else none

end Reader

/-- The records of a table. -/
def read (s : List Char) : Option (List (List (List Char))) :=
  (Reader.steps? ⟨[], [], .bare []⟩ s).bind Reader.finish?

/-- The records of a table, as texts. -/
def parse (s : String) : Option (List (List String)) :=
  (read s.toList).map (·.map (·.map String.ofList))

/-! ### What is a table is read -/

/-- What the field says that ends here. -/
def Place.ends? : Place → Option (List Char)
  | .bare cs => some cs
  | .quoted _ => none
  | .closed cs => some cs

namespace Reader

variable (rs : List (List (List Char))) (fs : List (List Char))

theorem steps?_append (r : Reader) (cs ds : List Char) :
    r.steps? (cs ++ ds) = (r.steps? cs).bind (·.steps? ds) := List.foldlM_append

theorem steps?_cons (r : Reader) (c : Char) (cs : List Char) :
    r.steps? (c :: cs) = (r.step? c).bind (·.steps? cs) := List.foldlM_cons

theorem step?_comma {p : Place} {f : List Char} (h : p.ends? = some f) :
    step? ⟨rs, fs, p⟩ ',' = some ⟨rs, fs ++ [f], .bare []⟩ := by
  cases p <;> cases h <;> rfl

theorem step?_newline {p : Place} {f : List Char} (h : p.ends? = some f) :
    step? ⟨rs, fs, p⟩ '\n' = some ⟨rs ++ [fs ++ [f]], [], .bare []⟩ := by
  cases p <;> cases h <;> rfl

theorem steps?_bare {cs : List Char} (h : ∀ c ∈ cs, c ∉ special) (before : List Char) :
    steps? ⟨rs, fs, .bare before⟩ cs = some ⟨rs, fs, .bare (before ++ cs)⟩ := by
  induction cs generalizing before with
  | nil => rw [List.append_nil]; rfl
  | cons c cs ih =>
    rw [List.forall_mem_cons] at h
    have hc : step? ⟨rs, fs, .bare before⟩ c = some ⟨rs, fs, .bare (before ++ [c])⟩ := by
      have hne := h.1
      simp only [special, List.mem_cons, List.not_mem_nil, or_false, not_or] at hne
      simp only [step?, if_neg hne.1, if_neg hne.2.1, if_neg hne.2.2.1, if_neg hne.2.2.2]
    rw [steps?_cons, hc, Option.bind_some, ih h.2, List.append_assoc]
    rfl

theorem steps?_doubled (cs before : List Char) :
    steps? ⟨rs, fs, .quoted before⟩ (doubled cs) = some ⟨rs, fs, .quoted (before ++ cs)⟩ := by
  induction cs generalizing before with
  | nil => rw [List.append_nil]; rfl
  | cons c cs ih =>
    have hc : steps? ⟨rs, fs, .quoted before⟩ (if c = '"' then ['"', '"'] else [c]) =
        some ⟨rs, fs, .quoted (before ++ [c])⟩ := by
      split_ifs with hquote
      · rw [hquote]
        rfl
      · rw [steps?_cons]
        simp only [step?, if_neg hquote]
        rfl
    unfold doubled at ih ⊢
    rw [List.flatMap_cons, steps?_append, hc, Option.bind_some, ih, List.append_assoc]
    rfl

/-- A field leads to a place where it can end. -/
theorem exists_steps?_of_isField {s f : List Char} (h : IsField s f) :
    ∃ p : Place, p.ends? = some f ∧ steps? ⟨rs, fs, .bare []⟩ s = some ⟨rs, fs, p⟩ := by
  cases h with
  | bare h => exact ⟨.bare s, rfl, steps?_bare rs fs h []⟩
  | quoted =>
    refine ⟨.closed f, rfl, ?_⟩
    have hopen : step? ⟨rs, fs, .bare []⟩ '"' = some ⟨rs, fs, .quoted []⟩ := rfl
    rw [List.cons_append, steps?_cons, hopen, Option.bind_some, steps?_append, steps?_doubled]
    rfl

theorem steps?_of_isRecord {s : List Char} {r : List (List Char)} (h : IsRecord s r) :
    steps? ⟨rs, fs, .bare []⟩ s = some ⟨rs ++ [fs ++ r], [], .bare []⟩ := by
  induction h generalizing fs with
  | last h =>
    obtain ⟨p, hp, hs⟩ := exists_steps?_of_isField rs fs h
    rw [steps?_append, hs, Option.bind_some, steps?_cons, step?_newline rs fs hp]
    rfl
  | more h _ ih =>
    obtain ⟨p, hp, hs⟩ := exists_steps?_of_isField rs fs h
    rw [steps?_append, hs, Option.bind_some, steps?_cons, step?_comma rs fs hp, Option.bind_some,
      ih, List.append_assoc, List.singleton_append]

theorem steps?_of_isTable {s : List Char} {found : List (List (List Char))}
    (h : IsTable s found) : steps? ⟨rs, [], .bare []⟩ s = some ⟨rs ++ found, [], .bare []⟩ := by
  induction h generalizing rs with
  | nil => rw [List.append_nil]; rfl
  | cons h _ ih =>
    rw [steps?_append, steps?_of_isRecord rs [] h, Option.bind_some, ih, List.append_assoc]
    rfl

end Reader

/-! ### What is read is a table -/

theorem IsTable.concat {s t : List Char} {r : List (List Char)} {rs : List (List (List Char))}
    (h : IsTable s rs) (hr : IsRecord t r) : IsTable (s ++ t) (rs ++ [r]) := by
  induction h with
  | nil =>
    have hone := IsTable.cons hr .nil
    rwa [List.append_nil] at hone
  | cons hs _ ih =>
    rw [List.append_assoc]
    exact .cons hs ih

/-- In front of a record, a text gives it some more fields. -/
structure IsLead (s : List Char) (fs : List (List Char)) : Prop where
  record : ∀ {t : List Char} {r : List (List Char)}, IsRecord t r → IsRecord (s ++ t) (fs ++ r)
  eq_nil : fs = [] → s = []

theorem isLead_nil : IsLead [] [] := ⟨fun hr => hr, fun _ => rfl⟩

theorem IsLead.concat {s t f : List Char} {fs : List (List Char)} (h : IsLead s fs)
    (hf : IsField t f) : IsLead (s ++ (t ++ [','])) (fs ++ [f]) where
  record hr := by
    rw [List.append_assoc, List.append_assoc, List.append_assoc]
    exact h.record (.more hf hr)
  eq_nil hfs := absurd hfs (List.concat_ne_nil _ _)

/-- A text brings a reader to a place, from in front of a field. -/
def Place.IsAfter : Place → List Char → Prop
  | .bare cs, s => s = cs ∧ ∀ c ∈ cs, c ∉ special
  | .quoted cs, s => s = '"' :: doubled cs
  | .closed cs, s => s = '"' :: doubled cs ++ ['"']

theorem Place.IsAfter.isField {p : Place} {s f : List Char} (h : p.IsAfter s)
    (hf : p.ends? = some f) : IsField s f := by
  cases p with
  | bare cs =>
    cases hf
    obtain ⟨rfl, hplain⟩ := h
    exact .bare hplain
  | quoted cs => cases hf
  | closed cs =>
    cases hf
    exact h ▸ .quoted f

/-- What a reader knows is what the text said. -/
inductive Reader.Knows : Reader → List Char → Prop
  | mk {rs : List (List (List Char))} {fs : List (List Char)} {p : Place} {s t u : List Char}
    (table : IsTable s rs) (lead : IsLead t fs) (place : p.IsAfter u) :
    Knows ⟨rs, fs, p⟩ (s ++ (t ++ u))

theorem Reader.Knows.endField {rs : List (List (List Char))} {fs : List (List Char)} {p : Place}
    {s f : List Char} (h : Knows ⟨rs, fs, p⟩ s) (hf : p.ends? = some f) :
    Knows ⟨rs, fs ++ [f], .bare []⟩ (s ++ [',']) := by
  obtain ⟨table, lead, place⟩ := h
  have h := Knows.mk table (lead.concat (place.isField hf)) (p := .bare []) ⟨rfl, nofun⟩
  simpa only [List.append_assoc, List.append_nil] using h

theorem Reader.Knows.endRecord {rs : List (List (List Char))} {fs : List (List Char)} {p : Place}
    {s f : List Char} (h : Knows ⟨rs, fs, p⟩ s) (hf : p.ends? = some f) :
    Knows ⟨rs ++ [fs ++ [f]], [], .bare []⟩ (s ++ ['\n']) := by
  obtain ⟨table, lead, place⟩ := h
  have h := Knows.mk (table.concat (lead.record (.last (place.isField hf)))) isLead_nil
    (p := .bare []) ⟨rfl, nofun⟩
  simpa only [List.append_assoc, List.append_nil] using h

theorem Reader.Knows.inField {rs : List (List (List Char))} {fs : List (List Char)} {p q : Place}
    {s : List Char} {c : Char} (h : Knows ⟨rs, fs, p⟩ s)
    (hq : ∀ {u}, p.IsAfter u → q.IsAfter (u ++ [c])) : Knows ⟨rs, fs, q⟩ (s ++ [c]) := by
  obtain ⟨table, lead, place⟩ := h
  have h := Knows.mk table lead (hq place)
  simpa only [List.append_assoc] using h

theorem Reader.Knows.step? {r r' : Reader} {s : List Char} {c : Char} (h : r.Knows s)
    (hs : r.step? c = some r') : r'.Knows (s ++ [c]) := by
  obtain ⟨rs, fs, p⟩ := r
  cases p with
  | bare cs =>
    simp only [Reader.step?] at hs
    split_ifs at hs with hcomma hline hquote hempty hreturn
    · cases hs
      exact hcomma ▸ h.endField rfl
    · cases hs
      exact hline ▸ h.endRecord rfl
    · cases hs
      refine h.inField fun hu => ?_
      rw [hu.1, hempty, hquote]
      rfl
    · cases hs
      refine h.inField fun hu => ⟨by rw [hu.1], List.forall_mem_append.2 ⟨hu.2, ?_⟩⟩
      simp [special, hcomma, hline, hquote, hreturn]
  | quoted cs =>
    simp only [Reader.step?] at hs
    split_ifs at hs with hquote
    · cases hs
      refine h.inField fun hu => ?_
      rw [hu, hquote]
      rfl
    · cases hs
      refine h.inField fun hu => ?_
      rw [hu]
      simp [Place.IsAfter, doubled, hquote]
  | closed cs =>
    simp only [Reader.step?] at hs
    split_ifs at hs with hcomma hline hquote
    · cases hs
      exact hcomma ▸ h.endField rfl
    · cases hs
      exact hline ▸ h.endRecord rfl
    · cases hs
      refine h.inField fun hu => ?_
      rw [hu, hquote]
      simp [Place.IsAfter, doubled]

theorem Reader.knows_of_steps? {r : Reader} {s : List Char}
    (h : steps? ⟨[], [], .bare []⟩ s = some r) : r.Knows s := by
  induction s using List.reverseRecOn generalizing r with
  | nil =>
    cases h
    exact .mk .nil isLead_nil (p := .bare []) ⟨rfl, nofun⟩
  | append_singleton s c ih =>
    rw [steps?_append] at h
    obtain ⟨mid, hmid, hlast⟩ := Option.bind_eq_some_iff.1 h
    rw [steps?_cons] at hlast
    obtain ⟨next, hnext, hend⟩ := Option.bind_eq_some_iff.1 hlast
    cases hend
    exact (ih hmid).step? hnext

/-- **The reader finds the records of every table, and of nothing else.** -/
theorem read_eq_some_iff {s : List Char} {rs : List (List (List Char))} :
    read s = some rs ↔ IsTable s rs := by
  constructor
  · intro h
    obtain ⟨r, hr, hfinish⟩ := Option.bind_eq_some_iff.1 h
    obtain ⟨table, lead, place⟩ := Reader.knows_of_steps? hr
    simp only [Reader.finish?] at hfinish
    split_ifs at hfinish with hend
    obtain ⟨rfl, rfl⟩ := hend
    cases hfinish
    -- nothing was read behind the last record
    rw [lead.eq_nil rfl, place.1, List.append_nil, List.append_nil]
    exact table
  · intro h
    unfold read
    rw [Reader.steps?_of_isTable [] h]
    rfl

/-- Texts are the records of one table. -/
theorem parse_eq_some_iff {s : String} {rows : List (List String)} :
    parse s = some rows ↔ IsTable s.toList (rows.map (·.map String.toList)) := by
  rw [← read_eq_some_iff]
  unfold parse
  rw [Option.map_eq_some_iff]
  constructor
  · rintro ⟨rs, hrs, rfl⟩
    simp [hrs, Function.comp_def]
  · exact fun h => ⟨_, h, by simp [Function.comp_def]⟩

example : parse "fish,\"by the \"\"wet\"\"\nbend, late\",\n" =
    some [["fish", "by the \"wet\"\nbend, late", ""]] := rfl

end Reckoning.Csv
