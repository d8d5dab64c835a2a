import Reckoning.Proofs.Content.Fates

/-!
# Strict and lenient loading

A strict loader does what a lenient one does, as long as nothing is rejected.

* `Loader.build` loads texts and hands the library over, `Loader.remembered` are the rejections that
  a lenient loader has seen when it ends, whether it ends well or not.
* `Loader.Parallel` compares the two loaders over one step; `Loader.Parallel.each` does so over
  many.  `Loader.build_strict`: the first thing that goes wrong leniently is what a strict loader
  stops at.
* `Loader.buildFiles` loads entries that were read already; `Loader.buildFiles_kept`: without those
  that were left out nothing is left out, and the library is the same.
* `Loader.strict_agrees` puts this together.
-/

namespace Reckoning

namespace Loader

/-! ### From texts to a library -/

/-- Take the entries of a file in, if it is a content file. -/
def takeFile (l : Loader) : Option (List Entry) → Loader × Option ContentError
  | some entries => l.each offerOrStop entries
  | none => (l, some (.notContent "the text is not a content file"))

/-- Hand the library over, unless there was an error. -/
def handOver : Loader × Option ContentError → Except ContentError (Library × LoadReport)
  | (l, none) => l.finish
  | (_, some error) => .error error

/-- Load texts one after the other, and hand the library over. -/
def build (strict : Bool) (texts : List String) : Except ContentError (Library × LoadReport) :=
  handOver ((start strict).each load texts)

/-- Load files whose entries were read already, and hand the library over. -/
def buildFiles (strict : Bool) (files : List (Option (List Entry))) :
    Except ContentError (Library × LoadReport) :=
  handOver ((start strict).each takeFile files)

/-- The rejections that a loader has seen when it ends. -/
def seen : Loader × Option ContentError → List Rejection
  | (l, none) => (l.dropDangling.toOption.getD l).rejected
  | (l, some _) => l.rejected

/-- The rejections that a lenient loader sees on texts. -/
def remembered (texts : List String) : List Rejection := seen ((start false).each load texts)

theorem load_eq (l : Loader) (text : String) : l.load text = l.takeFile (contentEntries? text) := by
  unfold load takeFile
  cases contentEntries? text <;> rfl

theorem each_load (l : Loader) (texts : List String) :
    l.each load texts = l.each takeFile (texts.map contentEntries?) := by
  induction texts generalizing l with
  | nil => rfl
  | cons text texts ih =>
    rw [List.map_cons, each, each, load_eq]
    cases l.takeFile (contentEntries? text) with
    | mk l' error =>
      cases error with
      | none => exact ih l'
      | some error => rfl

theorem build_eq (strict : Bool) (texts : List String) :
    build strict texts = buildFiles strict (texts.map contentEntries?) := by
  unfold build buildFiles
  rw [each_load]

/-! ### One loader beside the other -/

/-- The strict loader is where the lenient one is; or it stopped at the first rejection. -/
def Mirrors (lenient strict : Loader × Option ContentError) : Prop :=
  match lenient.1.rejected with
  | [] => strict = ({ lenient.1 with strict := true }, lenient.2)
  | first :: _ => strict.2 = some (.malformed first)

/-- A step that a lenient loader and a strict one take side by side. -/
structure Parallel {α : Type} (f : Loader → α → Loader × Option ContentError) : Prop where
  lenient : ∀ l x, l.strict = false → (f l x).1.strict = false
  /-- A rejection is never forgotten. -/
  keeps : ∀ l x, l.strict = false → l.rejected <+: (f l x).1.rejected
  mirrors : ∀ l x, l.strict = false → l.rejected = [] →
    Mirrors (f l x) (f { l with strict := true } x)

theorem mirrors_of_clean {p q : Loader × Option ContentError} (h : p.1.rejected = []) :
    Mirrors p q ↔ q = ({ p.1 with strict := true }, p.2) := by
  unfold Mirrors
  rw [h]

theorem mirrors_of_first {p q : Loader × Option ContentError} {first : Rejection}
    {more : List Rejection} (h : first :: more <+: p.1.rejected) :
    Mirrors p q ↔ q.2 = some (.malformed first) := by
  obtain ⟨rest, hrest⟩ := h
  unfold Mirrors
  rw [← hrest, List.cons_append]

theorem parallel_offerOrStop : Parallel offerOrStop where
  lenient := by
    rintro ⟨library, rejected, strict⟩ e rfl
    rw [offerOrStop_lenient]
  keeps := by
    rintro ⟨library, rejected, strict⟩ e rfl
    rw [offerOrStop_lenient]
    exact List.prefix_append _ _
  mirrors := by
    rintro ⟨library, rejected, strict⟩ e rfl rfl
    rw [offerOrStop_lenient]
    unfold offerOrStop
    rw [offer_eq]
    cases hv : library.verdict e with
    | error reason => simp [Mirrors, Library.rejection?, reject]
    | ok d => simp [Mirrors, Library.rejection?, Library.accept_of_ok hv]

section

variable {α : Type} {f : Loader → α → Loader × Option ContentError}

theorem each_cons_of_none {l l' : Loader} {x : α} (h : f l x = (l', none)) (xs : List α) :
    l.each f (x :: xs) = l'.each f xs := by
  rw [each, h]

theorem each_cons_of_some {l l' : Loader} {x : α} {error : ContentError}
    (h : f l x = (l', some error)) (xs : List α) : l.each f (x :: xs) = (l', some error) := by
  rw [each, h]

namespace Parallel

theorem keeps_each (h : Parallel f) (xs : List α) {l : Loader} (hl : l.strict = false) :
    (l.each f xs).1.strict = false ∧ l.rejected <+: (l.each f xs).1.rejected := by
  induction xs generalizing l with
  | nil => exact ⟨hl, List.prefix_refl _⟩
  | cons x xs ih =>
    have hlenient := h.lenient l x hl
    have hkeeps := h.keeps l x hl
    obtain ⟨l', error, hx⟩ : ∃ l' error, f l x = (l', error) := ⟨_, _, rfl⟩
    rw [hx] at hlenient hkeeps
    cases error with
    | none =>
      obtain ⟨hlast, hrest⟩ := ih hlenient
      rw [each_cons_of_none hx]
      exact ⟨hlast, hkeeps.trans hrest⟩
    | some error =>
      rw [each_cons_of_some hx]
      exact ⟨hlenient, hkeeps⟩

theorem mirrors_each (h : Parallel f) (xs : List α) {l : Loader} (hl : l.strict = false)
    (hr : l.rejected = []) :
    Mirrors (l.each f xs) ({ l with strict := true }.each f xs) := by
  induction xs generalizing l with
  | nil => exact (mirrors_of_clean hr).2 rfl
  | cons x xs ih =>
    have hlenient := h.lenient l x hl
    have hmirrors := h.mirrors l x hl hr
    obtain ⟨l', error, hx⟩ : ∃ l' error, f l x = (l', error) := ⟨_, _, rfl⟩
    rw [hx] at hlenient hmirrors
    cases hr' : l'.rejected with
    | nil =>
      -- nothing is rejected yet, so both go on, or both stop
      have hstrict := (mirrors_of_clean (p := (l', error)) hr').1 hmirrors
      cases error with
      | none =>
        rw [each_cons_of_none hx, each_cons_of_none hstrict]
        exact ih hlenient hr'
      | some error =>
        rw [each_cons_of_some hx, each_cons_of_some hstrict]
        exact (mirrors_of_clean hr').2 rfl
    | cons first more =>
      -- the strict loader stops here, and the lenient one remembers
      have hfirst : first :: more <+: l'.rejected := hr'.symm ▸ List.prefix_refl _
      have hkept : first :: more <+: (l.each f (x :: xs)).1.rejected := by
        cases error with
        | none =>
          rw [each_cons_of_none hx]
          exact hfirst.trans (h.keeps_each xs hlenient).2
        | some error =>
          rw [each_cons_of_some hx]
          exact hfirst
      have hstop := (mirrors_of_first (p := (l', error)) hfirst).1 hmirrors
      have hstrict : f { l with strict := true } x = (_, some (.malformed first)) :=
        Prod.ext rfl hstop
      refine (mirrors_of_first hkept).2 ?_
      rw [each_cons_of_some hstrict]

/-- Loaders that go side by side over one step do so over many. -/
theorem each (h : Parallel f) : Parallel fun l xs => l.each f xs where
  lenient _ xs hl := (h.keeps_each xs hl).1
  keeps _ xs hl := (h.keeps_each xs hl).2
  mirrors _ xs hl hr := h.mirrors_each xs hl hr

end Parallel

end

theorem parallel_takeFile : Parallel takeFile where
  lenient l file hl := by
    cases file with
    | none => exact hl
    | some es => exact parallel_offerOrStop.each.lenient l es hl
  keeps l file hl := by
    cases file with
    | none => exact List.prefix_refl _
    | some es => exact parallel_offerOrStop.each.keeps l es hl
  mirrors l file hl hr := by
    cases file with
    | none => exact (mirrors_of_clean hr).2 rfl
    | some es => exact parallel_offerOrStop.each.mirrors l es hl hr

theorem parallel_load : Parallel load := by
  have hload : load = fun l text => l.takeFile (contentEntries? text) := by
    funext l text
    exact load_eq l text
  rw [hload]
  exact ⟨fun l _ => parallel_takeFile.lenient l _, fun l _ => parallel_takeFile.keeps l _,
    fun l _ => parallel_takeFile.mirrors l _⟩

/-! ### The whole way -/

theorem dropDangling_of_nil {l : Loader} (h : l.library.dangling = []) :
    l.dropDangling = .ok l := by
  unfold dropDangling
  rw [h]
  rfl

theorem dropDangling_of_cons {l : Loader} {p : DefId × DefId} {rows : List (DefId × DefId)}
    (hl : l.strict = true) (h : l.library.dangling = p :: rows) :
    l.dropDangling = .error (.malformed ⟨.itemType, p.1.text, .unknownDefault p.2⟩) := by
  unfold dropDangling
  rw [h, List.foldlM_cons, reject, if_pos hl]
  rfl

theorem seen_of_none (library : Library) (rejected : List Rejection) :
    seen (⟨library, rejected, false⟩, none) = rejected ++ library.dangling.map fun p =>
      ⟨.itemType, p.1.text, .unknownDefault p.2⟩ := by
  simp only [seen, dropDangling, foldlM_reject_lenient, Except.toOption, Option.getD_some]

/-- Handing over goes on side by side. -/
theorem handOver_mirrors {p q : Loader × Option ContentError} (hp : p.1.strict = false)
    (h : Mirrors p q) :
    handOver q = match seen p with
      | [] => handOver p
      | first :: _ => .error (.malformed first) := by
  obtain ⟨⟨library, rejected, strict⟩, error⟩ := p
  obtain rfl : strict = false := hp
  cases rejected with
  | nil =>
    obtain rfl := (mirrors_of_clean rfl).1 h
    cases error with
    | some error => rfl
    | none =>
      rw [seen_of_none]
      cases hd : library.dangling with
      | nil =>
        have hlenient := dropDangling_of_nil (l := ⟨library, [], false⟩) hd
        have hstrict := dropDangling_of_nil (l := ⟨library, [], true⟩) hd
        simp only [handOver, finish, hlenient, hstrict, List.map_nil, List.append_nil]
        rfl
      | cons row rows =>
        have hstrict := dropDangling_of_cons (l := ⟨library, [], true⟩) rfl hd
        simp only [handOver, finish, hstrict]
        rfl
  | cons first more =>
    have hstop : q.2 = some (.malformed first) := h
    obtain ⟨l, error'⟩ := q
    obtain rfl : error' = some (.malformed first) := hstop
    cases error with
    | some error => rfl
    | none =>
      rw [seen_of_none]
      rfl

/-- **The strict way fails at the first rejection of the lenient way, and is the same where there is
none.** -/
theorem build_strict (texts : List String) :
    build true texts = match remembered texts with
      | [] => build false texts
      | first :: _ => .error (.malformed first) :=
  handOver_mirrors (parallel_load.keeps_each texts rfl).1 (parallel_load.mirrors_each texts rfl rfl)

end Loader

/-! ### Without those that are left out -/

namespace Library

/-- The entries whose definitions are kept. -/
def keptEntries (rows : List (Entry × Fate)) : List Entry := (rows.filter (·.2.isKept)).map (·.1)

theorem ids_purged_subset (l last : Library) (k : Kind) : (l.purged last).ids k ⊆ l.ids k := by
  cases k with
  | itemType => exact List.map_subset _ (List.filter_sublist.subset)
  | _ => exact fun _ h => h

theorem traitIds_purged (l last : Library) : (l.purged last).traitIds = l.traitIds := rfl

/-- What a library has room for, a smaller one has room for. -/
theorem refusal?_purged {l : Library} {d : Definition} (h : l.refusal? d = none)
    (last : Library) : (l.purged last).refusal? d = none := by
  unfold refusal? at h ⊢
  rw [traitIds_purged]
  by_cases ht : d.kind = .quirk ∨ d.kind = .failing ∨ d.kind = .uselessBit
  · rw [if_pos ht] at h ⊢
    exact h
  · rw [if_neg ht] at h ⊢
    split_ifs at h with hmany
    refine if_neg fun hfew => hmany ?_
    exact List.contains_iff_mem.2 (ids_purged_subset l last d.kind (List.contains_iff_mem.1 hfew))

theorem purged_append_of_nil {last : Library} {d : Definition} (h : last.faults d = [])
    (l : Library) : (l.append d).purged last = (l.purged last).append d := by
  cases d with
  | itemType t => simp [purged, append, h]
  | _ => rfl

theorem purged_append_of_ne_nil {last : Library} {d : Definition} (h : last.faults d ≠ [])
    (l : Library) : (l.append d).purged last = l.purged last := by
  cases d with
  | itemType t => simp [purged, append, h]
  | _ => exact absurd rfl h

theorem verdict_purged {l : Library} {e : Entry} {d : Definition} (h : l.verdict e = .ok d)
    (last : Library) : (l.purged last).verdict e = .ok d := by
  obtain ⟨hd, hr⟩ := verdict_eq_ok h
  simp [verdict, hd, refusal?_purged hr last, bind, Except.bind, pure, Except.pure]

theorem keptEntries_cons_of_kept {e : Entry} {fate : Fate} (h : fate.isKept = true)
    (rows : List (Entry × Fate)) : keptEntries ((e, fate) :: rows) = e :: keptEntries rows := by
  simp [keptEntries, h]

theorem keptEntries_cons_of_leftOut {e : Entry} {fate : Fate} (h : fate.isKept = false)
    (rows : List (Entry × Fate)) : keptEntries ((e, fate) :: rows) = keptEntries rows := by
  simp [keptEntries, h]

theorem flatten_map_keptEntries (files : List (List (Entry × Fate))) :
    (files.map keptEntries).flatten = keptEntries files.flatten := by
  unfold keptEntries
  rw [List.filter_flatten, List.map_flatten, List.map_map]
  rfl

theorem faults_purged (l last : Library) (d : Definition) :
    (l.purged last).faults d = l.faults d := by
  cases d <;> rfl

theorem purged_purged (l : Library) : (l.purged l).purged (l.purged l) = l.purged l := by
  have hfilter : (l.purged l).itemTypes.filter
      (fun t => ((l.purged l).faults (.itemType t)).isEmpty) = (l.purged l).itemTypes := by
    refine List.filter_eq_self.2 fun t ht => ?_
    rw [faults_purged]
    exact (List.mem_filter.1 ht).2
  exact congrArg (fun ts => { l.purged l with itemTypes := ts }) hfilter

theorem flatMap_faults_purged (l : Library) :
    (l.purged l).definitions.flatMap (l.purged l).faults = [] := by
  refine List.flatMap_eq_nil_iff.2 fun d hd => ?_
  rw [definitions_purged] at hd
  rw [faults_purged]
  exact List.isEmpty_iff.1 (List.mem_filter.1 hd).2

/-- Where only those are offered that will be kept, all of them are accepted. -/
theorem acceptAll_kept (l last : Library) (es : List Entry) :
    (l.purged last).acceptAll (keptEntries (l.rows last es)) = (l.acceptAll es).purged last ∧
      (l.purged last).refused (keptEntries (l.rows last es)) = [] := by
  induction es generalizing l with
  | nil => exact ⟨rfl, rfl⟩
  | cons e es ih =>
    have hrest := ih (l.accept e)
    rw [rows_cons, acceptAll_cons]
    cases hv : l.verdict e with
    | error reason =>
      rw [accept_of_error hv] at hrest ⊢
      rwa [keptEntries_cons_of_leftOut rfl]
    | ok d =>
      have hfate := last.isKept_fate e d
      rw [accept_of_ok hv] at hrest ⊢
      by_cases hd : last.faults d = []
      · -- it is offered again, and there is room for it
        have hkept := verdict_purged hv last
        rw [purged_append_of_nil hd] at hrest
        rw [keptEntries_cons_of_kept (hfate.trans (by simp [hd])), acceptAll_cons, refused_cons,
          accept_of_ok hkept, hkept]
        exact hrest
      · rw [purged_append_of_ne_nil hd] at hrest
        rwa [keptEntries_cons_of_leftOut (hfate.trans (by simp [hd]))]

end Library

namespace Loader

theorem each_takeFile_lenient (library : Library) (rejected : List Rejection)
    (files : List (List Entry)) :
    each takeFile ⟨library, rejected, false⟩ (files.map some) =
      (⟨library.acceptAll files.flatten, rejected ++ library.refused files.flatten, false⟩,
        none) := by
  induction files generalizing library rejected with
  | nil => simp [each, Library.acceptAll, Library.refused, Library.verdicts]
  | cons es files ih =>
    have hfile : takeFile ⟨library, rejected, false⟩ (some es) = _ :=
      each_offerOrStop_lenient library rejected es
    rw [List.map_cons, each_cons_of_none hfile, ih, List.flatten_cons, Library.acceptAll_append,
      Library.refused_append, List.append_assoc]

/-- What a lenient loader hands over. -/
theorem finish_lenient {library : Library} (h : library.Distinct) (rejected : List Rejection) :
    finish ⟨library, rejected, false⟩ = match (library.purged library).shortage? with
      | some shortage => .error (.unusable shortage)
      | none => .ok (library.purged library, ⟨(library.purged library).size,
          rejected ++ library.definitions.flatMap library.faults⟩) := by
  unfold finish
  rw [dropDangling_lenient h]
  simp only [bind, Except.bind]
  cases (library.purged library).shortage? <;> rfl

theorem buildFiles_lenient (files : List (List Entry)) :
    buildFiles false (files.map some) =
      finish ⟨Library.gathered files, Library.refused ∅ files.flatten, false⟩ := by
  have h := each_takeFile_lenient ∅ [] files
  rw [List.nil_append] at h
  unfold buildFiles start
  rw [h]
  rfl

theorem buildFiles_lenient_eq_ok {files : List (List Entry)} {library : Library}
    {report : LoadReport} :
    buildFiles false (files.map some) = .ok (library, report) ↔
      library = (Library.gathered files).purged (Library.gathered files) ∧
      library.shortage? = none ∧
      report = ⟨library.size, Library.refused ∅ files.flatten ++
        (Library.gathered files).definitions.flatMap (Library.gathered files).faults⟩ := by
  rw [buildFiles_lenient, finish_lenient (Library.distinct_gathered files)]
  generalize Library.gathered files = l
  cases hs : (l.purged l).shortage? with
  | some shortage =>
    refine iff_of_false nofun ?_
    rintro ⟨rfl, hnone, -⟩
    rw [hs] at hnone
    cases hnone
  | none =>
    constructor
    · intro h
      cases h
      exact ⟨rfl, hs, rfl⟩
    · rintro ⟨rfl, -, rfl⟩
      rfl

/-- Offered again without those that were left out, entries make the same library. -/
theorem buildFiles_kept {files : List (List Entry)} {library : Library} {report : LoadReport}
    (h : buildFiles false (files.map some) = .ok (library, report)) :
    buildFiles false (((Library.fatesOf files).map Library.keptEntries).map some) =
      .ok (library, ⟨library.size, []⟩) := by
  obtain ⟨rfl, hs, -⟩ := buildFiles_lenient_eq_ok.1 h
  have hkept : ((Library.fatesOf files).map Library.keptEntries).flatten =
      Library.keptEntries (Library.rows ∅ (Library.gathered files) files.flatten) := by
    rw [Library.flatten_map_keptEntries, Library.flatten_fatesOf]
  obtain ⟨haccept, hrefused⟩ := Library.acceptAll_kept ∅ (Library.gathered files) files.flatten
  rw [← hkept] at haccept hrefused
  -- there is nothing to take out of an empty library
  have hgathered : Library.gathered ((Library.fatesOf files).map Library.keptEntries) =
      (Library.gathered files).purged (Library.gathered files) := haccept
  have hnone : Library.refused ∅ ((Library.fatesOf files).map Library.keptEntries).flatten = [] :=
    hrefused
  refine buildFiles_lenient_eq_ok.2 ⟨?_, hs, ?_⟩
  · rw [hgathered, Library.purged_purged]
  · rw [hgathered, hnone, Library.flatMap_faults_purged]
    rfl

/-! ### Texts -/

/-- What a loader takes to the end are content files. -/
theorem exists_files_of_each {l l' : Loader} {files : List (Option (List Entry))}
    (h : l.each takeFile files = (l', none)) :
    ∃ entries : List (List Entry), files = entries.map some := by
  induction files generalizing l with
  | nil => exact ⟨[], rfl⟩
  | cons file files ih =>
    cases file with
    | none => cases h
    | some es =>
      obtain ⟨l₁, error, hfile⟩ : ∃ l₁ error, l.takeFile (some es) = (l₁, error) := ⟨_, _, rfl⟩
      cases error with
      | some error =>
        rw [each_cons_of_some hfile] at h
        cases h
      | none =>
        rw [each_cons_of_none hfile] at h
        obtain ⟨entries, rfl⟩ := ih h
        exact ⟨es :: entries, rfl⟩

theorem handOver_eq_ok {p : Loader × Option ContentError} {library : Library}
    {report : LoadReport} (h : handOver p = .ok (library, report)) :
    p.2 = none ∧ report.rejected = seen p := by
  obtain ⟨l, error⟩ := p
  cases error with
  | some error => cases h
  | none =>
    obtain ⟨l', hd, hfinish⟩ := bind_eq_ok_iff.1 h
    refine ⟨rfl, ?_⟩
    rw [seen, hd]
    cases hs : l'.library.shortage? with
    | some shortage =>
      rw [hs] at hfinish
      cases hfinish
    | none =>
      rw [hs] at hfinish
      cases hfinish
      rfl

/-- Texts from which a library is built are all of them content files. -/
theorem exists_files {strict : Bool} {texts : List String} {library : Library}
    {report : LoadReport} (h : build strict texts = .ok (library, report)) :
    ∃ files : List (List Entry), texts.map contentEntries? = files.map some := by
  have hend := (handOver_eq_ok h).1
  rw [each_load] at hend
  exact exists_files_of_each (Prod.ext rfl hend)

/-- The report of a lenient loader tells of all that it saw. -/
theorem rejected_of_build {texts : List String} {library : Library} {report : LoadReport}
    (h : build false texts = .ok (library, report)) : report.rejected = remembered texts :=
  (handOver_eq_ok h).2

/-- A strict loader succeeds if a lenient one does that has nothing to report. -/
theorem build_strict_eq_ok (texts : List String) (library : Library) :
    (∃ report, build true texts = .ok (library, report)) ↔
      ∃ report, build false texts = .ok (library, report) ∧ report.isClean = true := by
  rw [build_strict]
  cases hseen : remembered texts with
  | nil =>
    refine exists_congr fun report => (and_iff_left_of_imp fun h => ?_).symm
    rw [LoadReport.isClean, rejected_of_build h, hseen]
    rfl
  | cons first more =>
    refine iff_of_false (fun ⟨_, h⟩ => nomatch h) ?_
    rintro ⟨report, h, hclean⟩
    rw [LoadReport.isClean, rejected_of_build h, hseen] at hclean
    cases hclean

/-- The report tells of the entries that were left out. -/
theorem rejected_perm_of_build {files : List (List Entry)} {library : Library}
    {report : LoadReport} (h : buildFiles false (files.map some) = .ok (library, report)) :
    report.rejected.Perm ((Library.fatesOf files).flatten.flatMap (·.2.rejections)) := by
  obtain ⟨-, -, rfl⟩ := buildFiles_lenient_eq_ok.1 h
  rw [Library.flatten_fatesOf]
  have hfaults := (Library.definitions_gathered files).flatMap_right (Library.gathered files).faults
  exact (hfaults.append_left _).trans (Library.flatMap_rejections_rows _ _ _).symm

/-- **Strict and lenient loading agree.**  A strict loader succeeds exactly when a lenient one does
that rejects nothing, and with the same library; otherwise it fails with the first rejection of the
lenient one, or with its error if there was none.  And what the lenient loader left out leaves no
trace. -/
theorem strict_agrees (texts : List String) :
    (∀ library, (∃ report, build true texts = .ok (library, report)) ↔
      ∃ report, build false texts = .ok (library, report) ∧ report.isClean = true) ∧
    (∀ first more, remembered texts = first :: more →
      build true texts = .error (.malformed first)) ∧
    (remembered texts = [] → build true texts = build false texts) ∧
    ∀ library report, build false texts = .ok (library, report) →
      report.rejected = remembered texts ∧
      ∃ files, texts.map contentEntries? = files.map some ∧
        report.rejected.Perm ((Library.fatesOf files).flatten.flatMap (·.2.rejections)) ∧
        buildFiles false (((Library.fatesOf files).map Library.keptEntries).map some) =
          .ok (library, ⟨library.size, []⟩) ∧
        ∀ texts', texts'.map contentEntries? =
            ((Library.fatesOf files).map Library.keptEntries).map some →
          build false texts' = .ok (library, ⟨library.size, []⟩) := by
  refine ⟨build_strict_eq_ok texts, ?_, ?_, ?_⟩
  · intro first more hseen
    rw [build_strict, hseen]
  · intro hseen
    rw [build_strict, hseen]
  · intro library report h
    obtain ⟨files, hfiles⟩ := exists_files h
    have hbuild : buildFiles false (files.map some) = .ok (library, report) := by
      rw [← hfiles, ← build_eq, h]
    refine ⟨rejected_of_build h, files, hfiles, rejected_perm_of_build hbuild,
      buildFiles_kept hbuild, fun texts' htexts => ?_⟩
    rw [build_eq, htexts]
    exact buildFiles_kept hbuild

end Loader

end Reckoning
