import Reckoning.Proofs.Ledger.Numbering
import Reckoning.Proofs.Ledger.Reopening

/-!
# Which files can be opened

A file is opened just when its whole lines tell a history: every line is blank or holds an entry,
and the entries of every character are numbered from one without a gap.  Otherwise the first line
that breaks this is reported.  Either way the file is left with its whole lines.

* `LineLedger.HoldsLines` relates bytes to lines, `LineLedger.TellsHistory` is the condition on
  lines; `LineLedger.takeLine_cases` says what becomes of one line behind a history,
  `LineLedger.takeLines_cases` what becomes of several.
* `LineLedger.OpensAsTold` says what opening a file does, by what its bytes are;
  `LineLedger.opensAsTold` that it does so for all bytes.
* `LineLedger.sameAnswers_of_mem_iff`: files with the same entries answer the same.
-/

namespace Reckoning

/-! ### Lines -/

namespace LineLedger

variable {f : LineFormat}

/-- The entry on a line, if it is not blank and can be read. -/
def entryOn? (f : LineFormat) (line : List Char) : Option LedgerEntry :=
  if Text.allBlank line then none else f.read? (String.ofList line)

/-- The entries on some lines. -/
def entriesOn (f : LineFormat) (lines : List (List Char)) : List LedgerEntry :=
  lines.filterMap (entryOn? f)

/-- The lines tell a history: each is blank or holds an entry, and the entries of every character
are numbered from one, in the order of the lines. -/
structure TellsHistory (f : LineFormat) (lines : List (List Char)) : Prop where
  readable : ∀ line ∈ lines, Text.allBlank line = false → (f.read? (String.ofList line)).isSome
  numbered : Numbered (entriesOn f lines)

/-- The index of a history. -/
def indexOn (f : LineFormat) (lines : List (List Char)) : Index := Index.pushAll ∅ (entriesOn f lines)

theorem tellsHistory_nil : TellsHistory f [] := ⟨List.forall_mem_nil _, numbered_nil⟩

theorem TellsHistory.of_append {xs ys : List (List Char)} (h : TellsHistory f (xs ++ ys)) :
    TellsHistory f xs := by
  refine ⟨fun line hline => h.readable line (List.mem_append_left _ hline), ?_⟩
  have hnumbered := h.numbered
  unfold entriesOn at hnumbered
  rw [List.filterMap_append] at hnumbered
  exact hnumbered.of_append

theorem entriesOn_concat (lines : List (List Char)) (line : List Char) :
    entriesOn f (lines ++ [line]) = entriesOn f lines ++ (entryOn? f line).toList := by
  unfold entriesOn
  rw [List.filterMap_append]
  cases h : entryOn? f line <;> simp [h]

/-- A history goes on with a blank line, or with the next entry of some character. -/
theorem tellsHistory_concat {lines : List (List Char)} {line : List Char} :
    TellsHistory f (lines ++ [line]) ↔ TellsHistory f lines ∧
      (Text.allBlank line = false → ∃ e, f.read? (String.ofList line) = some e ∧
        e.id = (indexOn f lines).nextId e.id.character) := by
  have hentry (e : LedgerEntry) (hblank : Text.allBlank line = false)
      (hread : f.read? (String.ofList line) = some e) :
      entriesOn f (lines ++ [line]) = entriesOn f lines ++ [e] := by
    rw [entriesOn_concat, entryOn?, hblank, hread]
    rfl
  constructor
  · refine fun h => ⟨h.of_append, fun hblank => ?_⟩
    obtain ⟨e, hread⟩ := Option.isSome_iff_exists.1
      (h.readable line (List.mem_append_right lines List.mem_cons_self) hblank)
    have hseq := (numbered_concat.1 (hentry e hblank hread ▸ h.numbered)).2
    refine ⟨e, hread, ?_⟩
    rw [indexOn, Index.nextId_pushAll, ← hseq]
  · rintro ⟨h, hline⟩
    cases hblank : Text.allBlank line with
    | true =>
      refine ⟨fun l hl hl' => ?_, ?_⟩
      · rcases List.mem_append.1 hl with hl | hl
        · exact h.readable l hl hl'
        · rw [List.mem_singleton.1 hl, hblank] at hl'
          cases hl'
      · rw [entriesOn_concat, entryOn?, if_pos hblank, Option.toList_none, List.append_nil]
        exact h.numbered
    | false =>
      obtain ⟨e, hread, hid⟩ := hline hblank
      refine ⟨List.forall_mem_append.2 ⟨h.readable, ?_⟩, ?_⟩
      · exact List.forall_mem_singleton.2 fun _ => Option.isSome_iff_exists.2 ⟨e, hread⟩
      · rw [hentry e hblank hread]
        refine numbered_concat.2 ⟨h.numbered, ?_⟩
        rw [indexOn, Index.nextId_pushAll] at hid
        exact congrArg LedgerId.seq hid

/-- A line behind a history goes on with it and is taken in, or it does not and is reported. -/
theorem takeLine_cases {lines : List (List Char)} (h : TellsHistory f lines) (number : Nat)
    (line : List Char) :
    TellsHistory f (lines ++ [line]) ∧
        takeLine f (indexOn f lines) number line = .ok (indexOn f (lines ++ [line])) ∨
      ¬ TellsHistory f (lines ++ [line]) ∧
        ∃ fault, takeLine f (indexOn f lines) number line = .error (.corrupt number fault) := by
  rw [tellsHistory_concat]
  unfold indexOn takeLine
  rw [entriesOn_concat, Index.pushAll_append, entryOn?]
  cases hblank : Text.allBlank line with
  | true => exact .inl ⟨⟨h, nofun⟩, rfl⟩
  | false =>
    cases hread : f.read? (String.ofList line) with
    | none =>
      refine .inr ⟨fun hline => ?_, _, rfl⟩
      obtain ⟨e, he, -⟩ := hline.2 rfl
      cases he
    | some e =>
      simp only [Bool.false_eq_true, if_false]
      by_cases hid : e.id = (Index.pushAll ∅ (entriesOn f lines)).nextId e.id.character
      · rw [if_pos hid]
        exact .inl ⟨⟨h, fun _ => ⟨e, rfl, hid⟩⟩, rfl⟩
      · rw [if_neg hid]
        refine .inr ⟨fun hline => ?_, _, rfl⟩
        obtain ⟨e', he', hid'⟩ := hline.2 trivial
        cases he'
        exact hid hid'

/-- Lines behind a history go on with it and are taken in, or the first one that does not is
reported. -/
theorem takeLines_cases {done : List (List Char)} (h : TellsHistory f done) (number : Nat)
    (lines : List (List Char)) :
    TellsHistory f (done ++ lines) ∧
        takeLines f (indexOn f done) number lines = .ok (indexOn f (done ++ lines)) ∨
      ∃ n < lines.length, TellsHistory f (done ++ lines.take n) ∧
        ¬ TellsHistory f (done ++ lines.take (n + 1)) ∧
        ∃ fault, takeLines f (indexOn f done) number lines = .error (.corrupt (number + n) fault) := by
  induction lines generalizing done number with
  | nil =>
    rw [List.append_nil]
    exact .inl ⟨h, rfl⟩
  | cons line lines ih =>
    have hcons (ls : List (List Char)) : done ++ line :: ls = done ++ [line] ++ ls := by simp
    rw [takeLines]
    rcases takeLine_cases h number line with ⟨hline, htake⟩ | ⟨hline, fault, htake⟩
    · -- the line goes on with the history, so what is reported stands behind it
      rw [htake, hcons]
      rcases ih hline (number + 1) with ⟨hall, hrest⟩ | ⟨n, hn, hbefore, hafter, fault, hrest⟩
      · exact .inl ⟨hall, hrest⟩
      · refine .inr ⟨n + 1, Nat.succ_lt_succ hn, ?_, ?_, fault, ?_⟩
        · rw [List.take_succ_cons, hcons]
          exact hbefore
        · rw [List.take_succ_cons, hcons]
          exact hafter
        · rw [Nat.add_comm n, ← Nat.add_assoc]
          exact hrest
    · refine .inr ⟨0, Nat.zero_lt_succ _, ?_, hline, fault, ?_⟩
      · rw [List.take_zero, List.append_nil]
        exact h
      · rw [htake]
        rfl

/-! ### Bytes that hold lines -/

/-- The bytes hold the lines: they are the text of the lines with a line break behind each of them.
A carriage return in front of the break belongs to the break. -/
def HoldsLines (bytes : List UInt8) (lines : List (List Char)) : Prop :=
  ∃ raw : List (List Char), bytes = (String.ofList (raw.flatMap (· ++ ['\n']))).toUTF8.toList ∧
    (∀ line ∈ raw, '\n' ∉ line) ∧ lines = raw.map withoutReturn

theorem cutLines_raw {raw : List (List Char)} (h : ∀ line ∈ raw, '\n' ∉ line) :
    cutLines [] (raw.flatMap (· ++ ['\n'])) = raw.map withoutReturn := by
  induction raw with
  | nil => rfl
  | cons line raw ih =>
    obtain ⟨hline, hraw⟩ := List.forall_mem_cons.1 h
    rw [List.flatMap_cons, List.append_assoc, List.singleton_append, cutLines_append hline, ih hraw]
    rfl

theorem indexOf_of_holdsLines {bytes : List UInt8} {lines : List (List Char)}
    (h : HoldsLines bytes lines) : indexOf f bytes = takeLines f ∅ 1 lines := by
  obtain ⟨raw, rfl, hraw, rfl⟩ := h
  unfold indexOf
  rw [fromUTF8?_toUTF8]
  simp only
  rw [String.toList_ofList, cutLines_raw hraw]

/-- Every text is some lines and an unfinished one. -/
theorem exists_raw (cs : List Char) : ∃ (raw : List (List Char)) (torn : List Char),
    cs = raw.flatMap (· ++ ['\n']) ++ torn ∧ (∀ line ∈ raw, '\n' ∉ line) ∧ '\n' ∉ torn := by
  induction cs with
  | nil => exact ⟨[], [], rfl, List.forall_mem_nil _, List.not_mem_nil⟩
  | cons c cs ih =>
    obtain ⟨raw, torn, rfl, hraw, htorn⟩ := ih
    by_cases hc : c = '\n'
    · exact ⟨[] :: raw, torn, by rw [hc]; rfl, List.forall_mem_cons.2 ⟨List.not_mem_nil, hraw⟩, htorn⟩
    · -- the character comes in front of the first line, or of the unfinished one
      cases raw with
      | nil => exact ⟨[], c :: torn, rfl, hraw, List.not_mem_cons_of_ne_of_not_mem (Ne.symm hc) htorn⟩
      | cons line raw =>
        obtain ⟨hline, hraw⟩ := List.forall_mem_cons.1 hraw
        refine ⟨(c :: line) :: raw, torn, rfl, List.forall_mem_cons.2 ⟨?_, hraw⟩, htorn⟩
        exact List.not_mem_cons_of_ne_of_not_mem (Ne.symm hc) hline

/-- Bytes of a text that end in a line break hold lines. -/
theorem exists_holdsLines {t : String}
    (h : t.toUTF8.toList = [] ∨ t.toUTF8.toList.getLast? = some lineBreak) :
    ∃ lines, HoldsLines t.toUTF8.toList lines := by
  obtain ⟨raw, torn, ht, hraw, htorn⟩ := exists_raw t.toList
  have hnone : torn = [] := by
    rcases whole_of_toUTF8 h with hnil | hlast
    · exact (List.append_eq_nil_iff.1 (ht ▸ hnil)).2
    · by_contra hne
      rw [ht, List.getLast?_append_of_ne_nil _ hne] at hlast
      exact htorn (List.mem_of_getLast? hlast)
  rw [hnone, List.append_nil] at ht
  exact ⟨_, raw, by rw [← ht, String.ofList_toList], hraw, rfl⟩

theorem isWholeLines_completeLines (bytes : List UInt8) :
    IsWholeLines (completeLines bytes) bytes := by
  refine ⟨⟨(bytes.reverse.takeWhile (· != lineBreak)).reverse, ?_, ?_⟩, completeLines_whole bytes⟩
  · unfold completeLines
    rw [← List.reverse_append, List.takeWhile_append_dropWhile, List.reverse_reverse]
  · intro h
    have hbreak := List.all_eq_true.1 List.all_takeWhile lineBreak (List.mem_reverse.1 h)
    simp at hbreak

/-! ### Lines of entries -/

theorem holdsLines_joined {es : List LedgerEntry} (h : ∀ e ∈ es, f.Lined e) :
    HoldsLines (joined (linesOf f es)) (es.map fun e => (f.write e).toList) := by
  refine ⟨es.map fun e => (f.write e).toList, (utf8_textOf es).symm, ?_, ?_⟩
  · exact List.forall_mem_map.2 fun e he => (h e he).noBreak
  · rw [List.map_map]
    exact List.map_congr_left fun e he => (withoutReturn_of_notMem (h e he).noReturn).symm

theorem entriesOn_map {es : List LedgerEntry} (h : ∀ e ∈ es, f.Carries e) :
    entriesOn f (es.map fun e => (f.write e).toList) = es := by
  induction es with
  | nil => rfl
  | cons e es ih =>
    obtain ⟨he, hes⟩ := List.forall_mem_cons.1 h
    have hentry : entryOn? f (f.write e).toList = some e := by
      rw [entryOn?, he.visible, String.ofList_toList, he.readBack]
      rfl
    have hrest := ih hes
    unfold entriesOn at hrest ⊢
    rw [List.map_cons, List.filterMap_cons_some hentry, hrest]

/-- The lines of entries tell a history just when the entries are numbered. -/
theorem tellsHistory_map {es : List LedgerEntry} (h : ∀ e ∈ es, f.Carries e) :
    TellsHistory f (es.map fun e => (f.write e).toList) ↔ Numbered es := by
  have hreadable : ∀ line ∈ es.map fun e => (f.write e).toList, Text.allBlank line = false →
      (f.read? (String.ofList line)).isSome := by
    refine List.forall_mem_map.2 fun e he _ => ?_
    rw [String.ofList_toList, (h e he).readBack]
    rfl
  have hentries := entriesOn_map h
  exact ⟨fun ht => hentries ▸ ht.numbered, fun hn => ⟨hreadable, hentries.symm ▸ hn⟩⟩

/-! ### Opening a file -/

/-- What opening a file does, by what its bytes are. -/
structure OpensAsTold (f : LineFormat) (bytes kept : List UInt8) : Prop where
  /-- What is kept of the bytes are their whole lines. -/
  whole : IsWholeLines kept bytes
  /-- The file is left with them, whether it can be opened or not. -/
  file : (recover f bytes).1 = kept
  /-- Opening the file again gives the same. -/
  again : recover f kept = recover f bytes
  /-- It can be opened just when its lines tell a history. -/
  opened : (∃ l, ofBytes f bytes = .ok l) ↔ ∃ lines, HoldsLines kept lines ∧ TellsHistory f lines
  /-- Bytes that are no text are reported as such. -/
  noText : (∀ t : String, t.toUTF8.toList ≠ kept) →
    ∃ fault, ofBytes f bytes = .error (.corrupt 0 fault)
  /-- Bytes that are a text hold lines. -/
  text : ∀ t : String, t.toUTF8.toList = kept → ∃ lines, HoldsLines kept lines
  /-- If the lines do not tell a history, then the first that does not go on with it is reported. -/
  firstFault : ∀ lines, HoldsLines kept lines → ¬ TellsHistory f lines →
    ∃ n < lines.length, TellsHistory f (lines.take n) ∧ ¬ TellsHistory f (lines.take (n + 1)) ∧
      ∃ fault, ofBytes f bytes = .error (.corrupt (n + 1) fault)
  /-- If they do, then the ledger has the entries on them. -/
  answers : ∀ l lines, ofBytes f bytes = .ok l → HoldsLines kept lines → l.file = kept ∧
    ∀ c, Store.query l c .always = .ok ((entriesOn f lines).filter (·.id.character = c))

theorem ofBytes_cases {bytes : List UInt8} {lines : List (List Char)}
    (h : HoldsLines (completeLines bytes) lines) :
    TellsHistory f lines ∧ ofBytes f bytes = .ok ⟨completeLines bytes, indexOn f lines⟩ ∨
      ∃ n < lines.length, TellsHistory f (lines.take n) ∧ ¬ TellsHistory f (lines.take (n + 1)) ∧
        ∃ fault, ofBytes f bytes = .error (.corrupt (n + 1) fault) := by
  have hopen : ofBytes f bytes =
      (fun i => ⟨completeLines bytes, i⟩) <$> takeLines f ∅ 1 lines := by
    rw [← indexOf_of_holdsLines h]
    rfl
  rcases takeLines_cases (f := f) tellsHistory_nil 1 lines with
    ⟨hall, htake⟩ | ⟨n, hn, hbefore, hafter, fault, htake⟩
  · have htake' : takeLines f ∅ 1 lines = .ok (indexOn f lines) := htake
    rw [hopen, htake']
    exact .inl ⟨hall, rfl⟩
  · have htake' : takeLines f ∅ 1 lines = .error (.corrupt (1 + n) fault) := htake
    rw [Nat.add_comm] at htake'
    rw [hopen, htake']
    exact .inr ⟨n, hn, hbefore, hafter, fault, rfl⟩

/-- What is opened is a text. -/
theorem exists_text_of_ofBytes {bytes : List UInt8} {l : LineLedger f}
    (h : ofBytes f bytes = .ok l) : ∃ t : String, t.toUTF8.toList = completeLines bytes := by
  obtain ⟨i, hi, -⟩ := map_eq_ok_iff.1 h
  change indexOf f (completeLines bytes) = .ok i at hi
  unfold indexOf at hi
  cases ht : String.fromUTF8? (ByteArray.mk (completeLines bytes).toArray) with
  | none =>
    rw [ht] at hi
    cases hi
  | some t => exact ⟨t, toUTF8_of_fromUTF8? ht⟩

theorem ofBytes_of_noText {bytes : List UInt8}
    (h : ∀ t : String, t.toUTF8.toList ≠ completeLines bytes) :
    ∃ fault, ofBytes f bytes = .error (.corrupt 0 fault) := by
  have hnone : String.fromUTF8? (ByteArray.mk (completeLines bytes).toArray) = none := by
    rw [Option.eq_none_iff_forall_ne_some]
    exact fun t ht => h t (toUTF8_of_fromUTF8? ht)
  unfold ofBytes recover indexOf
  simp only [hnone]
  exact ⟨_, rfl⟩

theorem exists_holdsLines_completeLines {bytes : List UInt8} {t : String}
    (h : t.toUTF8.toList = completeLines bytes) :
    ∃ lines, HoldsLines (completeLines bytes) lines := by
  rw [← h]
  exact exists_holdsLines (h ▸ completeLines_whole bytes)

/-- A file that was opened holds lines that tell a history, and its index is that of the history. -/
theorem index_of_ofBytes {bytes : List UInt8} {l : LineLedger f} {lines : List (List Char)}
    (h : ofBytes f bytes = .ok l) (hlines : HoldsLines (completeLines bytes) lines) :
    TellsHistory f lines ∧ l = ⟨completeLines bytes, indexOn f lines⟩ := by
  rcases ofBytes_cases (f := f) hlines with ⟨hall, hl⟩ | ⟨n, -, -, -, fault, hl⟩
  · rw [h] at hl
    cases hl
    exact ⟨hall, rfl⟩
  · rw [h] at hl
    cases hl

/-- Of the lines of entries all is kept. -/
theorem OpensAsTold.kept_joined {es : List LedgerEntry} {kept : List UInt8}
    (h : OpensAsTold f (joined (linesOf f es)) kept) : kept = joined (linesOf f es) := by
  have hwhole : joined (linesOf f es) = [] ∨ (joined (linesOf f es)).getLast? = some lineBreak :=
    (getLast?_joined (linesOf f es)).imp_left fun hnil => by rw [hnil]; rfl
  rw [← h.file]
  exact completeLines_of_whole hwhole

theorem opensAsTold (f : LineFormat) (bytes : List UInt8) :
    OpensAsTold f bytes (completeLines bytes) where
  whole := isWholeLines_completeLines bytes
  file := rfl
  again := by
    unfold recover
    rw [completeLines_of_whole (completeLines_whole bytes)]
  opened := by
    constructor
    · rintro ⟨l, hl⟩
      obtain ⟨t, ht⟩ := exists_text_of_ofBytes hl
      obtain ⟨lines, hlines⟩ := exists_holdsLines_completeLines ht
      exact ⟨lines, hlines, (index_of_ofBytes hl hlines).1⟩
    · rintro ⟨lines, hlines, hall⟩
      rcases ofBytes_cases (f := f) hlines with ⟨-, hl⟩ | ⟨n, -, -, hafter, -⟩
      · exact ⟨_, hl⟩
      · -- the first lines of a history tell a history
        rw [← List.take_append_drop (n + 1) lines] at hall
        exact absurd hall.of_append hafter
  noText := ofBytes_of_noText
  text t ht := exists_holdsLines_completeLines ht
  firstFault lines hlines hnot := by
    rcases ofBytes_cases (f := f) hlines with ⟨hall, -⟩ | hfault
    · exact absurd hall hnot
    · exact hfault
  answers l lines hl hlines := by
    obtain ⟨-, rfl⟩ := index_of_ofBytes hl hlines
    refine ⟨rfl, fun c => ?_⟩
    have hquery : (indexOn f lines).query c .always = (indexOn f lines).history c :=
      List.filter_eq_self.2 fun e _ => Period.contains_always e.record.timestamp
    change Except.ok ((indexOn f lines).query c .always) = _
    rw [hquery, indexOn, Index.history_pushAll_empty]

/-- Files with the same entries answer the same, in whatever order their lines stand. -/
theorem sameAnswers_of_mem_iff {bytes bytes' : List UInt8} {l l' : LineLedger f}
    {lines lines' : List (List Char)} (h : ofBytes f bytes = .ok l)
    (h' : ofBytes f bytes' = .ok l') (hlines : HoldsLines (completeLines bytes) lines)
    (hlines' : HoldsLines (completeLines bytes') lines')
    (hmem : ∀ e, e ∈ entriesOn f lines ↔ e ∈ entriesOn f lines') : Store.SameAnswers l l' := by
  obtain ⟨hall, rfl⟩ := index_of_ofBytes h hlines
  obtain ⟨hall', rfl⟩ := index_of_ofBytes h' hlines'
  refine Store.sameAnswers_of_mem_entries (Index.wellFormed_pushAll hall.numbered)
    (Index.wellFormed_pushAll hall'.numbered) fun e => ?_
  change e ∈ (indexOn f lines).entries ↔ e ∈ (indexOn f lines').entries
  rw [indexOn, indexOn, Index.mem_entries_pushAll hall.numbered,
    Index.mem_entries_pushAll hall'.numbered, hmem]

/-- **A file can be opened just when its lines tell a history**, and otherwise the first line that
does not go on with it is reported; either way its whole lines are kept.  What is answered then
depends on nothing but the entries of each character in their order, however the lines of different
characters are mixed, and whichever way entries are attributed to characters. -/
theorem opens_histories (f : LineFormat) :
    (∀ bytes, ∃ kept, OpensAsTold f bytes kept) ∧
    ∀ (bytes bytes' : List UInt8) (l l' : LineLedger f) (lines lines' : List (List Char))
      (owner : LedgerEntry → CharacterId), ofBytes f bytes = .ok l → ofBytes f bytes' = .ok l' →
      HoldsLines l.file lines → HoldsLines l'.file lines' →
      (∀ c, (entriesOn f lines).filter (owner · = c) = (entriesOn f lines').filter (owner · = c)) →
      Store.SameAnswers l l' := by
  refine ⟨fun bytes => ⟨_, opensAsTold f bytes⟩, ?_⟩
  intro bytes bytes' l l' lines lines' owner h h' hlines hlines' hsame
  have hfile : l.file = completeLines bytes := by
    obtain ⟨i, -, rfl⟩ := map_eq_ok_iff.1 h
    rfl
  have hfile' : l'.file = completeLines bytes' := by
    obtain ⟨i, -, rfl⟩ := map_eq_ok_iff.1 h'
    rfl
  rw [hfile] at hlines
  rw [hfile'] at hlines'
  refine sameAnswers_of_mem_iff h h' hlines hlines' fun e => ?_
  -- an entry is among those of its owner
  have hmem (es : List LedgerEntry) : e ∈ es ↔ e ∈ es.filter (owner · = owner e) := by
    simp [List.mem_filter]
  rw [hmem, hsame, ← hmem]

end LineLedger

namespace Mill

/-- Another character brewed, and nothing was the matter either. -/
def brewed : ActionRecord := { baked with character := ⟨8⟩, action := "brew" }

/-- The first entry of the seventh character. -/
def firstBread : LedgerEntry := ⟨⟨⟨7⟩, 1⟩, baked⟩

/-- The second entry of the seventh character. -/
def secondBread : LedgerEntry := ⟨⟨⟨7⟩, 2⟩, baked⟩

/-- The first entry of the eighth character. -/
def firstBeer : LedgerEntry := ⟨⟨⟨8⟩, 1⟩, brewed⟩

theorem carries_firstBeer : jsonLines.Carries firstBeer := by
  refine carries_jsonLines ?_
  simp only [jsonLines, Json.Value.compact_eq_ofList, Json.Value.read?, String.toList_ofList]
  decide +kernel

theorem carries_all {es : List LedgerEntry} (h : es ⊆ [firstBread, secondBread, firstBeer]) :
    ∀ e ∈ es, jsonLines.Carries e := by
  intro e he
  have hall : ∀ e ∈ [firstBread, secondBread, firstBeer], jsonLines.Carries e := by
    simp only [List.forall_mem_cons]
    exact ⟨carries_baked (.inl rfl), carries_baked (.inr rfl), carries_firstBeer,
      List.forall_mem_nil _⟩
  exact hall e (h he)

theorem numbered_breadAndBeer : Numbered [firstBread, secondBread, firstBeer] ∧
    Numbered [firstBread, firstBeer, secondBread] ∧ Numbered [firstBread] := by
  have hfirst : Numbered [firstBread] := numbered_concat.2 ⟨numbered_nil, rfl⟩
  have hbread : Numbered ([firstBread] ++ [secondBread]) := numbered_concat.2 ⟨hfirst, rfl⟩
  have hbeer : Numbered ([firstBread] ++ [firstBeer]) := numbered_concat.2 ⟨hfirst, rfl⟩
  have hbreads : Numbered ([firstBread, secondBread] ++ [firstBeer]) :=
    numbered_concat.2 ⟨hbread, rfl⟩
  have hbeers : Numbered ([firstBread, firstBeer] ++ [secondBread]) :=
    numbered_concat.2 ⟨hbeer, rfl⟩
  exact ⟨hbreads, hbeers, hfirst⟩

/-- Beer may stand behind the bread or in between, and nobody can tell; but the first bread cannot
stand there twice, and the second line is reported. -/
theorem opens_bread : ∃ l l' : JsonLedger,
    LineLedger.ofBytes jsonLines
      (LineLedger.joined (LineLedger.linesOf jsonLines [firstBread, secondBread, firstBeer])) =
        .ok l ∧
    LineLedger.ofBytes jsonLines
      (LineLedger.joined (LineLedger.linesOf jsonLines [firstBread, firstBeer, secondBread])) =
        .ok l' ∧
    Store.SameAnswers l l' ∧
    ∃ fault, LineLedger.ofBytes jsonLines
      (LineLedger.joined (LineLedger.linesOf jsonLines [firstBread, firstBread])) =
        .error (.corrupt 2 fault) := by
  have hkept {es : List LedgerEntry} (h : es ⊆ [firstBread, secondBread, firstBeer]) :
      LineLedger.HoldsLines (LineLedger.joined (LineLedger.linesOf jsonLines es))
        (es.map fun e => (jsonLines.write e).toList) :=
    LineLedger.holdsLines_joined fun e he => (carries_all h e he).lined
  obtain ⟨hopens, hmixed⟩ := LineLedger.opens_histories jsonLines
  have hopen {es : List LedgerEntry} (h : es ⊆ [firstBread, secondBread, firstBeer])
      (hes : Numbered es) : ∃ l,
        LineLedger.ofBytes jsonLines (LineLedger.joined (LineLedger.linesOf jsonLines es)) = .ok l ∧
        l.file = LineLedger.joined (LineLedger.linesOf jsonLines es) := by
    obtain ⟨kept, hkept'⟩ := hopens (LineLedger.joined (LineLedger.linesOf jsonLines es))
    cases hkept'.kept_joined
    obtain ⟨l, hl⟩ := hkept'.opened.2
      ⟨_, hkept h, (LineLedger.tellsHistory_map (carries_all h)).2 hes⟩
    exact ⟨l, hl, (hkept'.answers l _ hl (hkept h)).1⟩
  have hends : [firstBread, secondBread, firstBeer] ⊆ [firstBread, secondBread, firstBeer] :=
    List.Subset.refl _
  have hbetween : [firstBread, firstBeer, secondBread] ⊆ [firstBread, secondBread, firstBeer] := by
    simp
  have htwice : [firstBread, firstBread] ⊆ [firstBread, secondBread, firstBeer] := by simp
  obtain ⟨l, hl, hfile⟩ := hopen hends numbered_breadAndBeer.1
  obtain ⟨l', hl', hfile'⟩ := hopen hbetween numbered_breadAndBeer.2.1
  refine ⟨l, l', hl, hl', ?_, ?_⟩
  · refine hmixed _ _ l l' _ _ (·.id.character) hl hl' (hfile ▸ hkept hends)
      (hfile' ▸ hkept hbetween) fun c => ?_
    rw [LineLedger.entriesOn_map (carries_all hends),
      LineLedger.entriesOn_map (carries_all hbetween)]
    by_cases hc : (⟨8⟩ : CharacterId) = c
    · subst hc
      rfl
    · simp [List.filter_cons, firstBread, secondBread, firstBeer, hc]
  · obtain ⟨kept, hkept'⟩ := hopens (LineLedger.joined (LineLedger.linesOf jsonLines
      [firstBread, firstBread]))
    cases hkept'.kept_joined
    have hnot : ¬ Numbered ([firstBread] ++ [firstBread]) := fun h =>
      absurd (numbered_concat.1 h).2 (by decide)
    obtain ⟨n, hn, -, hafter, hfault⟩ := hkept'.firstFault _ (hkept htwice)
      (mt (LineLedger.tellsHistory_map (carries_all htwice)).1 hnot)
    rw [List.length_map] at hn
    -- the first line is a history of its own
    match n, hn with
    | 0, _ =>
      have hone : [firstBread] ⊆ [firstBread, secondBread, firstBeer] := by simp
      exact absurd ((LineLedger.tellsHistory_map (carries_all hone)).2 numbered_breadAndBeer.2.2)
        hafter
    | 1, _ => exact hfault

end Mill

end Reckoning
