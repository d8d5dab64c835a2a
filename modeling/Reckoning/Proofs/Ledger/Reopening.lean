import Reckoning.Proofs.Ledger.Scans

/-!
# Opening a file again

A file that was opened goes on growing line by line, and when it is opened again its lines are
taken in one after the other once more.  What is found then depends on what the format makes of the
new lines.

* `LineLedger.Settled` says that a file holds what its ledger knows; `LineLedger.settled_ofBytes`:
  so it does when it was just opened.
* `LineLedger.Settled.indexOf_joined`: opening a longer file takes in the lines that it has more.
* `LineLedger.get?_takeLines`: what was taken in is not changed by what follows.
* `LineFormat.Lined` is what a format has to do even for entries that it does not carry.
* `LineLedger.ComesBack` says that everything is found again in the file;
  `LineLedger.Settled.comesBack_appendAll`: so it is just when the format carries every new entry.
-/

namespace Reckoning

namespace Index

/-- After commits there are the entries of before and those that were committed. -/
theorem WellFormed.mem_entries_pushAll {i : Index} (h : i.WellFormed) {rs : List ActionRecord}
    {e : LedgerEntry} :
    e ∈ (i.pushAll (i.commits rs)).entries ↔ e ∈ i.entries ∨ e ∈ i.commits rs := by
  induction rs generalizing i with
  | nil => simp [pushAll, commits]
  | cons r rs ih =>
    have hpush : (i.push ⟨i.nextId r.character, r⟩).WellFormed := h.push rfl
    have hfirst : e ∈ (i.push ⟨i.nextId r.character, r⟩).entries ↔
        e ∈ i.entries ∨ e = ⟨i.nextId r.character, r⟩ := by
      rw [hpush.mem_entries, h.mem_entries, mem_history_push h.ascending]
      refine or_congr_right (and_iff_right_of_imp ?_)
      rintro rfl
      rfl
    have hrest : e ∈ (i.pushAll (i.commits (r :: rs))).entries ↔ _ := ih hpush
    rw [hrest, hfirst, commits, List.mem_cons, or_assoc]

end Index

/-! ### Lines behind lines -/

/-- A text whose last byte is a line break, if it has one, ends in a line break, if at all. -/
theorem whole_of_toUTF8 {t : String}
    (h : t.toUTF8.toList = [] ∨ t.toUTF8.toList.getLast? = some LineLedger.lineBreak) :
    t.toList = [] ∨ t.toList.getLast? = some '\n' := by
  rw [toList_toUTF8] at h
  rcases List.eq_nil_or_concat' t.toList with hnil | ⟨cs, c, hcs⟩
  · exact .inl hnil
  · rw [hcs, List.flatMap_append, List.flatMap_singleton, List.append_eq_nil_iff,
      List.getLast?_append_of_ne_nil _ (utf8EncodeChar_ne_nil c)] at h
    have hlast := h.resolve_left fun hnil => utf8EncodeChar_ne_nil c hnil.2
    have hc := (mem_utf8EncodeChar_iff (by decide) (c := c)).1 (List.mem_of_getLast? hlast)
    have hbreak : c = '\n' := Char.toNat_inj.1 hc
    rw [hcs, List.getLast?_concat, hbreak]
    exact .inr rfl

namespace LineLedger

variable {f : LineFormat}

theorem cutLines_break (line xs ys : List Char) :
    cutLines line (xs ++ '\n' :: ys) = cutLines line (xs ++ ['\n']) ++ cutLines [] ys := by
  induction xs generalizing line with
  | nil => simp [cutLines]
  | cons c xs ih =>
    by_cases hc : c = '\n'
    · subst hc
      rw [List.cons_append, List.cons_append, cutLines, cutLines, ih, List.cons_append]
    · have hcut : ∀ rest, cutLines line (c :: rest) = cutLines (c :: line) rest := fun rest => by
        rw [cutLines]
        exact hc
      rw [List.cons_append, List.cons_append, hcut, hcut, ih]

/-- Behind a line break a new line begins. -/
theorem cutLines_append_of_break {xs : List Char} (h : xs = [] ∨ xs.getLast? = some '\n')
    (ys : List Char) : cutLines [] (xs ++ ys) = cutLines [] xs ++ cutLines [] ys := by
  rcases h with rfl | h
  · rfl
  · obtain ⟨cs, rfl⟩ := List.getLast?_eq_some_iff.1 h
    rw [List.append_assoc, List.singleton_append, cutLines_break]

theorem takeLines_append (i : Index) (number : Nat) (xs ys : List (List Char)) :
    takeLines f i number (xs ++ ys) =
      takeLines f i number xs >>= fun i' => takeLines f i' (number + xs.length) ys := by
  induction xs generalizing i number with
  | nil => rfl
  | cons x xs ih =>
    rw [List.cons_append, takeLines, takeLines]
    cases takeLine f i number x with
    | error e => rfl
    | ok i' =>
      have hrest := ih i' (number + 1)
      rw [Nat.add_assoc, Nat.add_comm 1] at hrest
      exact hrest

/-! ### Settled ledgers -/

/-- The file holds whole lines, and they make the index. -/
structure Settled (l : LineLedger f) : Prop where
  whole : l.file = [] ∨ l.file.getLast? = some lineBreak
  reads : indexOf f l.file = .ok l.index

theorem completeLines_whole (bytes : List UInt8) :
    completeLines bytes = [] ∨ (completeLines bytes).getLast? = some lineBreak := by
  unfold completeLines
  rw [List.reverse_eq_nil_iff, List.getLast?_reverse]
  cases h : bytes.reverse.dropWhile (· != lineBreak) with
  | nil => exact .inl rfl
  | cons b rest =>
    have hne : bytes.reverse.dropWhile (· != lineBreak) ≠ [] := h ▸ List.cons_ne_nil b rest
    have hb := List.head_dropWhile_not (· != lineBreak) hne
    simp only [h, List.head_cons, bne_eq_false_iff_eq] at hb
    exact .inr (congrArg some hb)

theorem completeLines_of_whole {bytes : List UInt8}
    (h : bytes = [] ∨ bytes.getLast? = some lineBreak) : completeLines bytes = bytes := by
  rcases h with rfl | h
  · rfl
  · obtain ⟨front, rfl⟩ := List.getLast?_eq_some_iff.1 h
    simp [completeLines]

theorem settled_ofBytes {bytes : List UInt8} {l : LineLedger f} (h : ofBytes f bytes = .ok l) :
    l.Settled := by
  obtain ⟨i, hi, rfl⟩ := map_eq_ok_iff.1 h
  exact ⟨completeLines_whole bytes, hi⟩

namespace Settled

variable {l : LineLedger f}

/-- Opening the file gives the ledger again. -/
theorem ofBytes_file (h : l.Settled) : ofBytes f l.file = .ok l := by
  unfold ofBytes recover
  simp only [completeLines_of_whole h.whole, h.reads]
  rfl

theorem wellFormed (h : l.Settled) : l.index.WellFormed := wellFormed_ofBytes h.ofBytes_file

/-- The file is still whole when entries were written behind it. -/
theorem whole_joined (h : l.Settled) (es : List LedgerEntry) :
    l.file ++ joined (linesOf f es) = [] ∨
      (l.file ++ joined (linesOf f es)).getLast? = some lineBreak := by
  rcases getLast?_joined (linesOf f es) with hnone | hlast
  · rw [hnone]
    simpa [joined] using h.whole
  · have hne : joined (linesOf f es) ≠ [] := fun hnil => by
      rw [hnil] at hlast
      cases hlast
    right
    rw [List.getLast?_append_of_ne_nil _ hne, hlast]

end Settled

end LineLedger

/-! ### Formats -/

/-- The format writes every entry on one line that is not blank; and if it reads anything back from
there, then under the same name. -/
structure LineFormat.Lined (f : LineFormat) (e : LedgerEntry) : Prop where
  noBreak : '\n' ∉ (f.write e).toList
  noReturn : '\r' ∉ (f.write e).toList
  visible : Text.allBlank (f.write e).toList = false
  name : ∀ e', f.read? (f.write e) = some e' → e'.id = e.id

theorem LineFormat.Lined.carries {f : LineFormat} {e : LedgerEntry} (h : f.Lined e)
    (hr : f.read? (f.write e) = some e) : f.Carries e where
  noBreak := (mem_utf8_iff (by decide) rfl).not.2 h.noBreak
  noReturn := (mem_utf8_iff (by decide) rfl).not.2 h.noReturn
  visible := h.visible
  readBack := hr

theorem LineFormat.Carries.lined {f : LineFormat} {e : LedgerEntry} (h : f.Carries e) :
    f.Lined e where
  noBreak := (mem_utf8_iff (by decide) rfl).not.1 h.noBreak
  noReturn := (mem_utf8_iff (by decide) rfl).not.1 h.noReturn
  visible := h.visible
  name e' he' := by
    rw [h.readBack] at he'
    cases he'
    rfl

namespace LineLedger

variable {f : LineFormat} {l : LineLedger f}

/-- Opening a longer file takes in the lines that it has more. -/
theorem Settled.indexOf_joined (h : l.Settled) {es : List LedgerEntry}
    (hes : ∀ e ∈ es, f.Lined e) : ∃ number, indexOf f (l.file ++ joined (linesOf f es)) =
      takeLines f l.index number (es.map fun e => (f.write e).toList) := by
  have hreads := h.reads
  unfold indexOf at hreads
  cases ht : String.fromUTF8? (ByteArray.mk l.file.toArray) with
  | none =>
    rw [ht] at hreads
    cases hreads
  | some t =>
    rw [ht] at hreads
    have hbytes := toUTF8_of_fromUTF8? ht
    have hlines : ∀ line ∈ es.map fun e => (f.write e).toList, '\n' ∉ line ∧ '\r' ∉ line := by
      intro line hline
      obtain ⟨e, he, rfl⟩ := List.mem_map.1 hline
      exact ⟨(hes e he).noBreak, (hes e he).noReturn⟩
    have htext : t.toList = [] ∨ t.toList.getLast? = some '\n' :=
      whole_of_toUTF8 (hbytes.symm ▸ h.whole)
    have happend : l.file ++ joined (linesOf f es) = (t ++ textOf f es).toUTF8.toList := by
      rw [← hbytes, ← utf8_textOf, toList_toUTF8, toList_toUTF8, toList_toUTF8,
        String.toList_append, List.flatMap_append]
    refine ⟨1 + (cutLines [] t.toList).length, ?_⟩
    unfold indexOf
    rw [happend, fromUTF8?_toUTF8]
    simp only [textOf, String.toList_append, String.toList_ofList]
    rw [cutLines_append_of_break htext, cutLines_flatMap hlines, takeLines_append]
    simp only at hreads
    rw [hreads]
    rfl

/-- A file of entries can be opened if its lines are taken in one after the other. -/
theorem ofBytes_joined {es : List LedgerEntry} (hes : ∀ e ∈ es, f.Lined e) :
    ∃ number, ofBytes f (joined (linesOf f es)) =
      (fun i => ⟨joined (linesOf f es), i⟩) <$>
        takeLines f ∅ number (es.map fun e => (f.write e).toList) := by
  have hfresh : (⟨[], ∅⟩ : LineLedger f).Settled := ⟨.inl rfl, rfl⟩
  obtain ⟨number, hread⟩ := hfresh.indexOf_joined hes
  refine ⟨number, ?_⟩
  unfold ofBytes recover
  have hwhole := completeLines_of_whole (hfresh.whole_joined es)
  rw [List.nil_append] at hread hwhole
  simp only [hwhole, hread]

/-! ### What is taken in stays -/

theorem get?_takeLine {i i' : Index} {number : Nat} {line : List Char} (h : i.WellFormed)
    (ht : takeLine f i number line = .ok i') {id : LedgerId} {e : LedgerEntry}
    (hg : i.get? id = some e) : i'.get? id = some e := by
  unfold takeLine at ht
  split_ifs at ht with hblank
  · cases ht
    exact hg
  · cases hr : f.read? (String.ofList line) with
    | none =>
      rw [hr] at ht
      cases ht
    | some x =>
      rw [hr] at ht
      simp only at ht
      split_ifs at ht with hid
      cases ht
      exact h.get?_push hid hg

theorem get?_takeLines {i i' : Index} {number : Nat} {lines : List (List Char)}
    (h : i.WellFormed) (ht : takeLines f i number lines = .ok i') {id : LedgerId}
    {e : LedgerEntry} (hg : i.get? id = some e) : i'.get? id = some e := by
  induction lines generalizing i number with
  | nil =>
    cases ht
    exact hg
  | cons line lines ih =>
    obtain ⟨i₁, hline, hlines⟩ := bind_eq_ok_iff.1 ht
    exact ih (wellFormed_takeLine h hline) hlines (get?_takeLine h hline hg)

/-- The line of an entry that is the next of its character. -/
theorem takeLine_next {i : Index} {e : LedgerEntry} (hf : f.Lined e)
    (he : e.id = i.nextId e.id.character) (number : Nat) :
    takeLine f i number (f.write e).toList = match f.read? (f.write e) with
      | none => .error (.corrupt number (.unreadable "the line is not an entry"))
      | some e' => .ok (i.push e') := by
  unfold takeLine
  rw [hf.visible, String.ofList_toList]
  cases hr : f.read? (f.write e) with
  | none => rfl
  | some e' =>
    have hid := hf.name e' hr
    have hnext : e'.id = i.nextId e'.id.character := by rw [hid]; exact he
    simp only [Bool.false_eq_true, if_false]
    exact if_pos hnext

theorem get?_pushAll_commits {i : Index} (h : i.WellFormed) (rs : List ActionRecord)
    {id : LedgerId} {e : LedgerEntry} (hg : i.get? id = some e) :
    (i.pushAll (i.commits rs)).get? id = some e := by
  induction rs generalizing i with
  | nil => exact hg
  | cons r rs ih => exact ih (h.push rfl) (h.get?_push rfl hg)

/-- The index of the lines that committed records make answers as the commits do just when every
line is read as the entry that was written. -/
theorem takeLines_commits_iff {i : Index} (h : i.WellFormed) {rs : List ActionRecord}
    (hf : ∀ e ∈ i.commits rs, f.Lined e) (number : Nat) :
    (∃ i', takeLines f i number ((i.commits rs).map fun e => (f.write e).toList) = .ok i' ∧
        ∀ id e, (i.pushAll (i.commits rs)).get? id = some e → i'.get? id = some e) ↔
      ∀ e ∈ i.commits rs, f.read? (f.write e) = some e := by
  induction rs generalizing i number with
  | nil => exact iff_of_true ⟨i, rfl, fun _ _ hg => hg⟩ (List.forall_mem_nil _)
  | cons r rs ih =>
    obtain ⟨he, hes⟩ := List.forall_mem_cons.1 hf
    have hpush : (i.push ⟨i.nextId r.character, r⟩).WellFormed := h.push rfl
    have hline := takeLine_next he rfl number
    have hrest := ih hpush hes (number + 1)
    have hcommitted := get?_pushAll_commits hpush rs (h.get?_push_self rfl)
    rw [Index.commits, List.forall_mem_cons, List.map_cons, takeLines, hline]
    constructor
    · rintro ⟨i', htake, hsame⟩
      cases hr : f.read? (f.write ⟨i.nextId r.character, r⟩) with
      | none =>
        rw [hr] at htake
        cases htake
      | some e' =>
        -- what was read for the line is still there in the end, and so is what was written
        rw [hr] at htake
        have hid : e'.id = i.nextId r.character := he.name e' hr
        have hread := get?_takeLines (h.push hid) htake (h.get?_push_self hid)
        rw [hid, hsame _ _ hcommitted] at hread
        cases hread
        exact ⟨rfl, hrest.1 ⟨i', htake, hsame⟩⟩
    · rintro ⟨hr, hrs⟩
      rw [hr]
      exact hrest.2 hrs

/-- Indexes that would give the same names go on doing so when they take in entries of one name. -/
theorem nextId_push_congr {i j : Index} (hi : i.WellFormed) (hj : j.WellFormed)
    (hij : ∀ c, j.nextId c = i.nextId c) {x y : LedgerEntry} (hxy : y.id = x.id)
    (c : CharacterId) : (j.push y).nextId c = (i.push x).nextId c := by
  have hlength := congrArg LedgerId.seq (hij c)
  unfold Index.nextId at hlength ⊢
  rw [Index.history_push hj.ascending, Index.history_push hi.ascending, hxy]
  by_cases hc : c = x.id.character
  · simpa [hc] using hlength
  · simpa [hc] using hlength

/-- Either every line is read, as whatever entry, or the first one that is not is reported. -/
theorem takeLines_commits_cases {i j : Index} (hi : i.WellFormed) (hj : j.WellFormed)
    (hij : ∀ c, j.nextId c = i.nextId c) {rs : List ActionRecord}
    (hf : ∀ e ∈ i.commits rs, f.Lined e) (number : Nat) :
    (∃ i', takeLines f j number ((i.commits rs).map fun e => (f.write e).toList) = .ok i') ∧
        (∀ e ∈ i.commits rs, ∃ e', f.read? (f.write e) = some e') ∨
      (∃ n, takeLines f j number ((i.commits rs).map fun e => (f.write e).toList) =
          .error (.corrupt n (.unreadable "the line is not an entry"))) ∧
        ∃ e ∈ i.commits rs, f.read? (f.write e) = none := by
  induction rs generalizing i j number with
  | nil => exact .inl ⟨⟨j, rfl⟩, List.forall_mem_nil _⟩
  | cons r rs ih =>
    obtain ⟨he, hes⟩ := List.forall_mem_cons.1 hf
    have hline := takeLine_next he (hij r.character).symm number
    rw [Index.commits, List.map_cons, takeLines, hline]
    cases hread : f.read? (f.write ⟨i.nextId r.character, r⟩) with
    | none => exact .inr ⟨⟨number, rfl⟩, _, List.mem_cons_self, hread⟩
    | some e' =>
      -- whatever was read, it has the name of what was written
      have hid : e'.id = i.nextId r.character := he.name e' hread
      have hj' : (j.push e').WellFormed := hj.push (hid.trans (hij r.character).symm)
      rcases ih (hi.push rfl) hj' (nextId_push_congr hi hj hij hid) hes (number + 1) with
        ⟨htake, hall⟩ | ⟨htake, e, hmem, hnone⟩
      · exact .inl ⟨htake, List.forall_mem_cons.2 ⟨⟨e', hread⟩, hall⟩⟩
      · exact .inr ⟨htake, e, List.mem_cons_of_mem _ hmem, hnone⟩

/-! ### The whole way -/

/-- The file can be opened, and every entry is found there again. -/
def ComesBack (l : LineLedger f) : Prop :=
  ∃ l' : LineLedger f, ofBytes f l.file = .ok l' ∧
    ∀ id e, Store.get? l id = .ok (some e) → Store.get? l' id = .ok (some e)

/-- Appending writes a line for every entry. -/
theorem exists_appendAll_file (l : LineLedger f) (rs : List ActionRecord) :
    ∃ s, Store.appendAll l rs = .ok ((l.index.commits rs).map (·.id), s) ∧
      s.file = l.file ++ joined (linesOf f (l.index.commits rs)) ∧
      s.index = l.index.pushAll (l.index.commits rs) := by
  induction rs generalizing l with
  | nil => exact ⟨l, rfl, (List.append_nil _).symm, rfl⟩
  | cons r rs ih =>
    obtain ⟨s, hs, hfile, hindex⟩ := ih (l.append r).2
    have hline : (l.append r).2.file =
        l.file ++ joined (linesOf f [⟨l.index.nextId r.character, r⟩]) :=
      congrArg (l.file ++ ·) (line_eq _)
    refine ⟨s, ?_, ?_, hindex⟩
    · change Store.appendAll (l.append r).2 rs >>= _ = _
      rw [hs]
      rfl
    · rw [hfile, hline, List.append_assoc, ← joined_append]
      rfl

/-- **A file comes back just when the format carries every new entry.**  Records are appended to a
ledger that was opened, and its file is opened once more.  If every new line is read as the entry
that was written, then this gives the ledger again; if not, then the file cannot be opened or some
entry is not found.  It can be opened as long as every line is read as some entry. -/
theorem Settled.comesBack_appendAll (h : l.Settled) {rs : List ActionRecord}
    (hf : ∀ e ∈ l.index.commits rs, f.Lined e) :
    ∃ s, Store.appendAll l rs = .ok ((l.index.commits rs).map (·.id), s) ∧
      s.index = l.index.pushAll (l.index.commits rs) ∧
      (s.ComesBack ↔ ∀ e ∈ l.index.commits rs, f.read? (f.write e) = some e) ∧
      ((∀ e ∈ l.index.commits rs, f.read? (f.write e) = some e) → s.Settled) ∧
      ((∃ l', ofBytes f s.file = .ok l') ↔
        ∀ e ∈ l.index.commits rs, ∃ e', f.read? (f.write e) = some e') ∧
      ((∃ e ∈ l.index.commits rs, f.read? (f.write e) = none) →
        ∃ n, ofBytes f s.file =
          .error (.corrupt n (.unreadable "the line is not an entry"))) := by
  obtain ⟨s, hs, hfile, hindex⟩ := exists_appendAll_file l rs
  obtain ⟨number, hread⟩ := h.indexOf_joined hf
  have hwhole := h.whole_joined (l.index.commits rs)
  have hopen : ofBytes f s.file = (fun i => ⟨s.file, i⟩) <$>
      takeLines f l.index number ((l.index.commits rs).map fun e => (f.write e).toList) := by
    unfold ofBytes recover
    simp only [hfile, completeLines_of_whole hwhole, hread]
  refine ⟨s, hs, hindex, ?_, ?_, ?_⟩
  · rw [← takeLines_commits_iff h.wellFormed hf number, ← hindex]
    constructor
    · rintro ⟨l', hl', hsame⟩
      rw [hopen] at hl'
      obtain ⟨i', hi', rfl⟩ := map_eq_ok_iff.1 hl'
      exact ⟨i', hi', fun id e he => Except.ok.inj (hsame id e (congrArg Except.ok he))⟩
    · rintro ⟨i', hi', hsame⟩
      rw [hi'] at hopen
      exact ⟨_, hopen, fun id e he => congrArg Except.ok (hsame id e (Except.ok.inj he))⟩
  · intro hr
    have hcarries : ∀ e ∈ l.index.commits rs, f.Carries e := fun e he =>
      (hf e he).carries (hr e he)
    refine ⟨hfile ▸ hwhole, ?_⟩
    rw [hfile, hread, hindex, takeLines_commits hcarries]
  · rcases takeLines_commits_cases h.wellFormed h.wellFormed (fun _ => rfl) hf number with
      ⟨⟨i', hi'⟩, hall⟩ | ⟨⟨n, hn⟩, e, he, hnone⟩
    · rw [hopen, hi']
      refine ⟨iff_of_true ⟨_, rfl⟩ hall, ?_⟩
      rintro ⟨e, he, hnone⟩
      obtain ⟨e', he'⟩ := hall e he
      rw [hnone] at he'
      cases he'
    · rw [hopen, hn]
      refine ⟨iff_of_false ?_ ?_, fun _ => ⟨n, rfl⟩⟩
      · rintro ⟨l', hl'⟩
        cases hl'
      · intro hall
        obtain ⟨e', he'⟩ := hall e he
        rw [hnone] at he'
        cases he'

end LineLedger

end Reckoning
