import Reckoning.Proofs.Json.Numerals

/-!
# Reading compact JSON back

What is written for a value is read as that value, but for its numbers: each of them is read as what
its own text is read as, and one that is not finite as null.

* `Json.Value.reread` is the value that comes back.
* `Json.Reader.textBody_escaped`: a text comes back as it was.
* `Json.Value.read?_compact` puts this together, for integers of 64 bits.
-/

namespace Reckoning.Json

/-! ### Texts -/

namespace Reader

theorem hexValue?_hexDigit : ∀ n < 16, hexValue? (hexDigit n) = some n := by decide

theorem textUnits_escaped (acc : List Nat) (c : Char) (rest : List Char) :
    textUnits acc (escaped c ++ rest) = textUnits (c.toNat :: acc) rest := by
  unfold escaped
  split_ifs with hquote hback _ _ _ _ _ hc
  any_goals subst_vars; rfl
  · -- a control character is written by its number
    have hhigh := hexValue?_hexDigit (c.toNat / 16) (by omega)
    have hlow := hexValue?_hexDigit (c.toNat % 16) (by omega)
    have hzero : hexValue? '0' = some 0 := by decide
    have hnumber : hex4? '0' '0' (hexDigit (c.toNat / 16)) (hexDigit (c.toNat % 16)) =
        some c.toNat := by
      simp [hex4?, hhigh, hlow, hzero]
      omega
    simp [textUnits, hnumber]
  · rw [List.singleton_append, textUnits, if_neg hc]
    all_goals simp_all

theorem textUnits_chars (acc : List Nat) (cs rest : List Char) :
    textUnits acc (cs.flatMap escaped ++ '"' :: rest) =
      some ((cs.map Char.toNat).reverse ++ acc, rest) := by
  induction cs generalizing acc with
  | nil => rfl
  | cons c cs ih =>
    rw [List.flatMap_cons, List.append_assoc, textUnits_escaped, ih]
    simp

/-- No character is half of a surrogate pair. -/
theorem joinUnits_chars (acc cs : List Char) :
    joinUnits acc (cs.map Char.toNat) = some (cs.reverse ++ acc) := by
  induction cs generalizing acc with
  | nil => rfl
  | cons c cs ih =>
    have hvalid : c.toNat < 0xD800 ∨ 0xDFFF < c.toNat ∧ c.toNat < 0x110000 := c.valid
    have htrail : isTrail c.toNat = false := by
      simp only [isTrail, Bool.and_eq_false_iff, decide_eq_false_iff_not]
      omega
    have hlead : isLead c.toNat = false := by
      simp only [isLead, Bool.and_eq_false_iff, decide_eq_false_iff_not]
      omega
    have hstep : joinUnits acc (c.toNat :: cs.map Char.toNat) =
        joinUnits (Char.ofNat c.toNat :: acc) (cs.map Char.toNat) := by
      rw [joinUnits.eq_def]
      simp only [htrail, hlead, Bool.false_eq_true, if_false]
    rw [List.map_cons, hstep, Char.ofNat_toNat, ih]
    simp

theorem textBody_escaped (s : String) (rest : List Char) :
    textBody (s.toList.flatMap escaped ++ '"' :: rest) = some (.text s, rest) := by
  unfold textBody
  rw [textUnits_chars, List.append_nil, ← List.map_reverse]
  simp only [Option.map_some, joinUnits_chars]
  simp

/-! ### One value -/

/-- The character neither is a blank nor closes a list. -/
def Opens (c : Char) : Prop := c ≠ ' ' ∧ c ≠ '\n' ∧ c ≠ '\t' ∧ c ≠ '\r' ∧ c ≠ ']'

instance (c : Char) : Decidable (Opens c) := inferInstanceAs (Decidable (_ ∧ _))

theorem skip_of_opens {c : Char} (h : Opens c) (cs : List Char) : skip (c :: cs) = c :: cs := by
  obtain ⟨h₁, h₂, h₃, h₄, -⟩ := h
  simp [skip, h₁, h₂, h₃, h₄]

theorem opens_of_isDigit {c : Char} (h : c.isDigit = true) : Opens c := by
  refine ⟨?_, ?_, ?_, ?_, ?_⟩
  all_goals
    rintro rfl
    cases h

/-- A number without a sign is read as a number. -/
theorem value_of_isDigit {c : Char} (h : c.isDigit = true) (n : Nat) (cs : List Char) :
    value (n + 1) (c :: cs) = numberBody false (c :: cs) := by
  have hne : ∀ d : Char, d.isDigit = false → c ≠ d := by
    rintro d hd rfl
    rw [h] at hd
    cases hd
  unfold value
  rw [skip_of_opens (opens_of_isDigit h)]
  split
  all_goals first
    | rfl
    | exact absurd (List.cons.inj ‹_›).1 (hne _ (by decide))

/-- A number begins with a digit. -/
theorem exists_isDigit {negative : Bool} {cs : List Char} {p : Value × List Char}
    (h : numberBody negative cs = some p) : ∃ c rest, cs = c :: rest ∧ c.isDigit = true := by
  obtain ⟨⟨ds, rest⟩, hds, -⟩ := Option.bind_eq_some_iff.1 h
  obtain ⟨hdigits, hne⟩ := digits1_eq_some.1 hds
  cases cs with
  | nil => exact absurd (Prod.ext_iff.1 hdigits).1.symm hne
  | cons c cs =>
    refine ⟨c, cs, rfl, ?_⟩
    by_contra hc
    simp only [digits, List.takeWhile_cons_of_neg hc, List.map_nil] at hdigits
    exact hne (Prod.ext_iff.1 hdigits).1.symm

theorem value_of_numberBody {n : Nat} {cs tail : List Char} {v : Value} (ht : NumberEnds tail)
    (h : numberBody false cs = some (v, [])) : value (n + 1) (cs ++ tail) = some (v, tail) := by
  obtain ⟨c, rest, rfl, hc⟩ := exists_isDigit h
  rw [List.cons_append, value_of_isDigit hc]
  exact numberBody_append ht h

theorem value_of_negative {n : Nat} {cs tail : List Char} {v : Value} (ht : NumberEnds tail)
    (h : numberBody true cs = some (v, [])) :
    value (n + 1) ('-' :: cs ++ tail) = some (v, tail) := by
  have hminus : Opens '-' := by decide
  rw [List.cons_append, value, skip_of_opens hminus]
  exact numberBody_append ht h

theorem value_toString {k : Int} (hleast : -0x8000000000000000 ≤ k) (hmost : k ≤ 0xFFFFFFFFFFFFFFFF)
    (n : Nat) {tail : List Char} (ht : NumberEnds tail) :
    value (n + 1) ((toString k).toList ++ tail) = some (.int k, tail) := by
  rw [Int.toString_eq_repr, Int.repr_eq_if]
  split_ifs with hk
  · have hword : k.toNat ≤ Number.mostWord := by
      unfold Number.mostWord
      omega
    have hback : ((k.toNat : Nat) : Int) = k := by omega
    have h := numberBody_natural hword
    rw [hback] at h
    rw [Nat.toList_repr]
    exact value_of_numberBody ht h
  · have hback : -(((-k).toNat : Nat) : Int) = k := by omega
    have h := numberBody_negative (n := (-k).toNat) (by omega) (by omega)
    rw [hback] at h
    rw [String.toList_append, Nat.toList_repr]
    exact value_of_negative ht h

/-- The text of a number is read in the same way wherever it stands: as a number or as something
that is none, and as null if the number is not finite. -/
theorem exists_value_realText (x : Float) :
    ∃ v, (∀ n tail, NumberEnds tail →
        value (n + 1) ((realText x).toList ++ tail) = some (v, tail)) ∧
      (if x.isFinite = true then IsReal v else v = .null) := by
  by_cases hx : x.isFinite = true
  · obtain ⟨negative, cs, htext, hcs⟩ := exists_realText hx
    obtain ⟨v, hv, hreal⟩ := hcs negative
    refine ⟨v, fun n tail ht => ?_, by rwa [if_pos hx]⟩
    rw [htext]
    cases negative with
    | false => exact value_of_numberBody ht hv
    | true => exact value_of_negative ht hv
  · refine ⟨.null, fun n tail _ => ?_, by rw [if_neg hx]⟩
    unfold realText
    rw [if_neg hx]
    rfl

theorem value_list {c : Char} (hc : Opens c) (n : Nat) (cs : List Char) :
    value (n + 1) ('[' :: c :: cs) =
      (items n (c :: cs)).map fun p => (.list p.1, p.2) := by
  have hbracket : Opens '[' := by decide
  rw [value, skip_of_opens hbracket]
  simp only [skip_of_opens hc]
  split
  · exact absurd (List.cons.inj ‹_›).1 hc.2.2.2.2
  · rfl

theorem value_table (n : Nat) (cs : List Char) :
    value (n + 1) ('\x7b' :: '"' :: cs) =
      (members n ('"' :: cs)).map fun p =>
        (match p.1 with | some ms => .table ms | none => .unreadable, p.2) := by
  have hbrace : Opens '\x7b' := by decide
  have hquote : Opens '"' := by decide
  rw [value, skip_of_opens hbrace]
  simp only [skip_of_opens hquote]
  rfl

theorem items_last {n : Nat} {cs tail : List Char} {v : Value}
    (h : value n cs = some (v, ']' :: tail)) : items (n + 1) cs = some ([v], tail) := by
  rw [items, h]
  rfl

theorem items_cons {n : Nat} {cs rest tail : List Char} {v : Value} {vs : List Value}
    (h : value n cs = some (v, ',' :: rest)) (hs : items n rest = some (vs, tail)) :
    items (n + 1) cs = some (v :: vs, tail) := by
  rw [items, h]
  change (items n rest).bind _ = _
  rw [hs]
  rfl

theorem members_last {n : Nat} {cs rest tail : List Char} {name : String} {v : Value}
    (hname : textBody cs = some (.text name, ':' :: rest))
    (h : value n rest = some (v, '\x7d' :: tail)) :
    members (n + 1) ('"' :: cs) = some (some [(name, v)], tail) := by
  have hquote : Opens '"' := by decide
  rw [members, skip_of_opens hquote]
  change (textBody cs).bind _ = _
  rw [hname]
  change (value n rest).bind _ = _
  rw [h]
  rfl

theorem members_cons {n : Nat} {cs rest more tail : List Char} {name : String} {v : Value}
    {ms : List (String × Value)} (hname : textBody cs = some (.text name, ':' :: rest))
    (h : value n rest = some (v, ',' :: more)) (hs : members n more = some (some ms, tail)) :
    members (n + 1) ('"' :: cs) = some (some ((name, v) :: ms), tail) := by
  have hquote : Opens '"' := by decide
  rw [members, skip_of_opens hquote]
  change (textBody cs).bind _ = _
  rw [hname]
  change (value n rest).bind _ = _
  rw [h]
  change (members n more).bind _ = _
  rw [hs]
  rfl

theorem read?_of_value {text : String} {v : Value}
    (h : ∀ n, 2 * text.toList.length ≤ n → value (n + 1) text.toList = some (v, [])) :
    Value.read? text = some v := by
  unfold Value.read?
  simp only
  rw [h _ (Nat.le_succ _)]
  rfl

end Reader

/-! ### Any value -/

namespace Value

mutual

/-- Every integer in the value fits into 64 bits. -/
def Fits : Value → Prop
  | .int n => -0x8000000000000000 ≤ n ∧ n ≤ 0xFFFFFFFFFFFFFFFF
  | .list items => FitItems items
  | .table members => FitMembers members
  | .null | .bool _ | .real _ | .text _ | .unreadable => True

/-- Every integer in the items of a list fits into 64 bits. -/
def FitItems : List Value → Prop
  | [] => True
  | v :: rest => v.Fits ∧ FitItems rest

/-- Every integer in the members of a table fits into 64 bits. -/
def FitMembers : List (String × Value) → Prop
  | [] => True
  | (_, v) :: rest => v.Fits ∧ FitMembers rest

end

mutual

/-- The value that is read when another one was written. -/
def reread : Value → Value
  | .null => .null
  | .bool b => .bool b
  | .int n => .int n
  | .real x => (read? (realText x)).getD .null
  | .text s => .text s
  | .list items => .list (rereadItems items)
  | .table members => .table (rereadMembers members)
  | .unreadable => .null

/-- The items that are read when those of a list were written. -/
def rereadItems : List Value → List Value
  | [] => []
  | v :: rest => v.reread :: rereadItems rest

/-- The members that are read when those of a table were written. -/
def rereadMembers : List (String × Value) → List (String × Value)
  | [] => []
  | (name, v) :: rest => (name, v.reread) :: rereadMembers rest

end

theorem value_realText (x : Float) (n : Nat) {tail : List Char} (ht : NumberEnds tail) :
    Reader.value (n + 1) ((realText x).toList ++ tail) = some (reread (.real x), tail) ∧
      (if x.isFinite = true then Reader.IsReal (reread (.real x))
        else reread (.real x) = .null) := by
  obtain ⟨v, hv, hkind⟩ := Reader.exists_value_realText x
  have hread : reread (.real x) = v := by
    have halone : read? (realText x) = some v := Reader.read?_of_value fun n _ => by
      have h := hv n [] numberEnds_nil
      rwa [List.append_nil] at h
    rw [reread, halone]
    rfl
  rw [hread]
  exact ⟨hv n tail ht, hkind⟩

theorem read?_realText (x : Float) : read? (realText x) = some (reread (.real x)) := by
  refine Reader.read?_of_value fun n _ => ?_
  have h := (value_realText x n numberEnds_nil).1
  rwa [List.append_nil] at h

theorem quotedChars_append (s : String) (tail : List Char) :
    quotedChars s ++ tail = '"' :: (s.toList.flatMap escaped ++ '"' :: tail) := by
  simp [quotedChars]

theorem exists_toString (k : Int) : ∃ c cs, (toString k).toList = c :: cs ∧ Reader.Opens c := by
  rw [Int.toString_eq_repr, Int.repr_eq_if]
  split_ifs
  · obtain ⟨c, cs, hcs, hc⟩ := Reader.exists_isDigit (Reader.numberBody_digits false k.toNat)
    rw [Nat.toList_repr]
    exact ⟨c, cs, hcs, Reader.opens_of_isDigit hc⟩
  · rw [String.toList_append]
    exact ⟨'-', _, rfl, by decide⟩

theorem exists_cons_realText (x : Float) :
    ∃ c cs, (realText x).toList = c :: cs ∧ Reader.Opens c := by
  by_cases hx : x.isFinite = true
  · obtain ⟨negative, cs, htext, hcs⟩ := Reader.exists_realText hx
    rw [htext]
    cases negative with
    | true => exact ⟨'-', cs, rfl, by decide⟩
    | false =>
      obtain ⟨v, hv, -⟩ := hcs false
      obtain ⟨c, rest, hrest, hc⟩ := Reader.exists_isDigit hv
      exact ⟨c, rest, hrest, Reader.opens_of_isDigit hc⟩
  · unfold realText
    rw [if_neg hx]
    exact ⟨'n', _, rfl, by decide⟩

/-- What is written for a value does not begin with a blank, and is no end of a list. -/
theorem exists_chars (v : Value) : ∃ c cs, v.chars = c :: cs ∧ Reader.Opens c := by
  cases v with
  | null => exact ⟨'n', _, rfl, by decide⟩
  | bool b => cases b <;> exact ⟨_, _, rfl, by decide⟩
  | int n => exact exists_toString n
  | real x => exact exists_cons_realText x
  | text s => exact ⟨'"', _, rfl, by decide⟩
  | list items => exact ⟨'[', _, rfl, by decide⟩
  | table members => exact ⟨'\x7b', _, rfl, by decide⟩
  | unreadable => exact ⟨'n', _, rfl, by decide⟩

theorem length_chars_pos (v : Value) : 0 < v.chars.length := by
  obtain ⟨c, cs, h, -⟩ := v.exists_chars
  rw [h]
  exact Nat.succ_pos _

/-- The items of a list begin as the first one does. -/
theorem exists_itemsText (v : Value) (rest : List Value) : ∃ c cs,
    [','].intercalate (itemChars (v :: rest)) = c :: cs ∧ Reader.Opens c := by
  obtain ⟨c, cs, hc, hopens⟩ := v.exists_chars
  cases rest with
  | nil =>
    rw [itemChars, itemChars, List.intercalate_singleton]
    exact ⟨c, cs, hc, hopens⟩
  | cons w rest =>
    rw [itemChars, itemChars, List.intercalate_cons_cons, hc]
    exact ⟨c, _, rfl, hopens⟩

/-- The members of a table begin with a quote. -/
theorem exists_membersText (name : String) (v : Value) (rest : List (String × Value)) :
    ∃ cs, [','].intercalate (memberChars ((name, v) :: rest)) = '"' :: cs := by
  cases rest with
  | nil =>
    rw [memberChars, memberChars, List.intercalate_singleton]
    exact ⟨_, rfl⟩
  | cons w rest =>
    obtain ⟨name', w⟩ := w
    rw [memberChars, memberChars, List.intercalate_cons_cons]
    exact ⟨_, rfl⟩

mutual

/-- What is written for a value is read back.  Every bracket takes two calls. -/
theorem value_chars : (v : Value) → v.Fits → ∀ {n : Nat}, 2 * v.chars.length ≤ n →
    ∀ {tail : List Char}, NumberEnds tail →
      Reader.value (n + 1) (v.chars ++ tail) = some (v.reread, tail)
  | .null, _, _, _, _, _ => rfl
  | .bool true, _, _, _, _, _ => rfl
  | .bool false, _, _, _, _, _ => rfl
  | .int k, hv, n, _, tail, ht => by
    obtain ⟨hleast, hmost⟩ := hv
    rw [chars, reread]
    exact Reader.value_toString hleast hmost n ht
  | .real x, _, n, _, tail, ht => by
    rw [chars]
    exact (value_realText x n ht).1
  | .text s, _, n, _, tail, _ => by
    have hquote : Reader.Opens '"' := by decide
    rw [chars, reread, quotedChars_append, Reader.value, Reader.skip_of_opens hquote]
    exact Reader.textBody_escaped s tail
  | .list [], _, _, _, _, _ => rfl
  | .list (v :: rest), hv, n, hn, tail, _ => by
    obtain ⟨c, cs, hc, hopens⟩ := exists_itemsText v rest
    rw [chars, List.length_append, List.length_cons, List.length_singleton] at hn
    obtain ⟨m, rfl⟩ : ∃ m, n = m + 1 := ⟨n - 1, by omega⟩
    have hitems := items_chars (v :: rest) (List.cons_ne_nil v rest) hv (n := m) (by omega) tail
    rw [hc, List.cons_append] at hitems
    rw [chars, reread, List.append_assoc, List.cons_append, List.singleton_append, hc,
      List.cons_append, Reader.value_list hopens, hitems]
    rfl
  | .table [], _, _, _, _, _ => rfl
  | .table ((name, v) :: rest), hv, n, hn, tail, _ => by
    obtain ⟨cs, hc⟩ := exists_membersText name v rest
    rw [chars, List.length_append, List.length_cons, List.length_singleton] at hn
    obtain ⟨m, rfl⟩ : ∃ m, n = m + 1 := ⟨n - 1, by omega⟩
    have hmembers := members_chars ((name, v) :: rest) (List.cons_ne_nil _ rest) hv (n := m)
      (by omega) tail
    rw [hc, List.cons_append] at hmembers
    rw [chars, reread, List.append_assoc, List.cons_append, List.singleton_append, hc,
      List.cons_append, Reader.value_table, hmembers]
    rfl
  | .unreadable, _, _, _, _, _ => rfl

theorem items_chars : (vs : List Value) → vs ≠ [] → FitItems vs → ∀ {n : Nat},
    2 * ([','].intercalate (itemChars vs)).length + 1 ≤ n → ∀ tail : List Char,
      Reader.items (n + 1) ([','].intercalate (itemChars vs) ++ ']' :: tail) =
        some (rereadItems vs, tail)
  | [], hne, _, _, _, _ => absurd rfl hne
  | [v], _, hv, n, hn, tail => by
    have hend : NumberEnds (']' :: tail) := numberEnds_cons (by decide) _
    rw [itemChars, itemChars, List.intercalate_singleton] at hn ⊢
    obtain ⟨m, rfl⟩ : ∃ m, n = m + 1 := ⟨n - 1, by omega⟩
    exact Reader.items_last (value_chars v hv.1 (by omega) hend)
  | v :: w :: rest, _, hv, n, hn, tail => by
    have hpos := v.length_chars_pos
    rw [itemChars, itemChars, List.intercalate_cons_cons, ← itemChars] at hn ⊢
    rw [List.length_append, List.length_append, List.length_singleton] at hn
    obtain ⟨m, rfl⟩ : ∃ m, n = m + 1 := ⟨n - 1, by omega⟩
    have hend : NumberEnds (',' :: ([','].intercalate (itemChars (w :: rest)) ++ ']' :: tail)) :=
      numberEnds_cons (by decide) _
    rw [List.append_assoc, List.append_assoc, List.singleton_append]
    exact Reader.items_cons (value_chars v hv.1 (by omega) hend)
      (items_chars (w :: rest) (List.cons_ne_nil w rest) hv.2 (by omega) tail)

theorem members_chars : (ms : List (String × Value)) → ms ≠ [] → FitMembers ms → ∀ {n : Nat},
    2 * ([','].intercalate (memberChars ms)).length + 1 ≤ n → ∀ tail : List Char,
      Reader.members (n + 1) ([','].intercalate (memberChars ms) ++ '\x7d' :: tail) =
        some (some (rereadMembers ms), tail)
  | [], hne, _, _, _, _ => absurd rfl hne
  | [(name, v)], _, hv, n, hn, tail => by
    have hend : NumberEnds ('\x7d' :: tail) := numberEnds_cons (by decide) _
    rw [memberChars, memberChars, List.intercalate_singleton] at hn ⊢
    rw [List.length_append, List.length_cons] at hn
    obtain ⟨m, rfl⟩ : ∃ m, n = m + 1 := ⟨n - 1, by omega⟩
    rw [List.append_assoc, quotedChars_append, List.cons_append]
    exact Reader.members_last (Reader.textBody_escaped name _)
      (value_chars v hv.1 (by omega) hend)
  | (name, v) :: (name', w) :: rest, _, hv, n, hn, tail => by
    rw [memberChars, memberChars, List.intercalate_cons_cons, ← memberChars] at hn ⊢
    rw [List.length_append, List.length_append, List.length_append, List.length_cons,
      List.length_singleton] at hn
    obtain ⟨m, rfl⟩ : ∃ m, n = m + 1 := ⟨n - 1, by omega⟩
    have hend : NumberEnds
        (',' :: ([','].intercalate (memberChars ((name', w) :: rest)) ++ '\x7d' :: tail)) :=
      numberEnds_cons (by decide) _
    rw [List.append_assoc, List.append_assoc, List.append_assoc, quotedChars_append,
      List.cons_append, List.singleton_append]
    exact Reader.members_cons (Reader.textBody_escaped name _)
      (value_chars v hv.1 (by omega) hend)
      (members_chars ((name', w) :: rest) (List.cons_ne_nil _ rest) hv.2 (by omega) tail)

end

/-- **What is written compactly is read back**, but for its numbers. -/
theorem read?_compact {v : Value} (hv : v.Fits) : read? v.compact = some v.reread := by
  refine Reader.read?_of_value fun n hn => ?_
  rw [toList_compact] at hn ⊢
  have h := value_chars v hv hn numberEnds_nil
  rwa [List.append_nil] at h

end Value

end Reckoning.Json
