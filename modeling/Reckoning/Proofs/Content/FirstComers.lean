import Reckoning.Proofs.Content.Fates
import Reckoning.Proofs.Content.Listing

/-!
# First come, first served

A lenient loader gives an id to the first sound definition that asks for it, and keeps it there.

* `Definition.key` is what a definition asks for: its id, in the space that all traits of characters
  share or in that of its own kind.
* `LoadStep.offers` are the definitions that a step offers, in their order; `Offer.verdicts` serves
  them one after the other.
* `Loader.serve_lenient` is what one offer does to a lenient loader, `Loader.serveAll_lenient` what
  many do, and `Loader.take_eq_serveAll` says that this is what a step is.
* `Loader.first_comers_stay` puts this together with the order of files.
-/

namespace Reckoning

/-! ### Keys -/

/-- The kind under which ids are unique: the traits of characters share one. -/
def Kind.space : Kind → Kind
  | quirk => quirk
  | failing => quirk
  | uselessBit => quirk
  | kind => kind

theorem Kind.space_eq_quirk_iff {k : Kind} :
    k.space = .quirk ↔ k = .quirk ∨ k = .failing ∨ k = .uselessBit := by
  cases k <;> decide

theorem Kind.eq_of_space_eq {k k' : Kind} (h : k.space ≠ .quirk) (hk : k'.space = k.space) :
    k' = k := by
  revert h hk
  cases k <;> cases k' <;> decide

theorem Kind.mem_all (k : Kind) : k ∈ Kind.all := by
  cases k <;> decide

namespace Definition

/-- What a definition asks for. -/
def key (d : Definition) : Kind × DefId := (d.kind.space, d.id)

/-- Why a definition is refused whose key is taken. -/
def clash (d : Definition) : Refusal :=
  if d.kind.space = .quirk then .takenTrait d.id else .taken d.id

end Definition

namespace Library

/-- The keys that are taken. -/
def keys (l : Library) : List (Kind × DefId) := l.definitions.map (·.key)

theorem map_id_ofKind (l : Library) (k : Kind) : (l.ofKind k).map (·.id) = l.ids k := by
  cases k <;> simp [ofKind, ids, Definition.id, Function.comp_def]

theorem kind_of_mem_ofKind {l : Library} {k : Kind} {d : Definition} (h : d ∈ l.ofKind k) :
    d.kind = k := by
  cases k <;> obtain ⟨x, -, rfl⟩ := List.mem_map.1 h <;> rfl

theorem mem_keys {l : Library} {space : Kind} {id : DefId} :
    (space, id) ∈ l.keys ↔ ∃ k : Kind, k.space = space ∧ id ∈ l.ids k := by
  simp only [keys, definitions, List.mem_map, List.mem_flatMap, ← map_id_ofKind, Definition.key,
    Prod.mk.injEq]
  constructor
  · rintro ⟨d, ⟨k, -, hd⟩, hspace, hid⟩
    exact ⟨k, kind_of_mem_ofKind hd ▸ hspace, d, hd, hid⟩
  · rintro ⟨k, hspace, d, hd, hid⟩
    exact ⟨d, ⟨k, Kind.mem_all k, hd⟩, kind_of_mem_ofKind hd ▸ hspace, hid⟩

theorem mem_keys_append {l : Library} {d : Definition} {key : Kind × DefId} :
    key ∈ (l.append d).keys ↔ key ∈ l.keys ∨ key = d.key := by
  unfold keys
  rw [((definitions_append l d).map _).mem_iff]
  simp

theorem mem_keys_of_trait {l : Library} {d : Definition} (h : d.kind.space = .quirk) :
    d.key ∈ l.keys ↔ d.id ∈ l.traitIds := by
  simp only [Definition.key, h, mem_keys, traitIds, List.mem_append]
  constructor
  · rintro ⟨k, hk, hid⟩
    cases k <;> simp_all [Kind.space]
  · rintro ((hid | hid) | hid) <;> exact ⟨_, rfl, hid⟩

theorem mem_keys_of_not_trait {l : Library} {d : Definition} (h : d.kind.space ≠ .quirk) :
    d.key ∈ l.keys ↔ d.id ∈ l.ids d.kind := by
  simp only [Definition.key, mem_keys]
  constructor
  · rintro ⟨k, hk, hid⟩
    rwa [← Kind.eq_of_space_eq h hk]
  · exact fun hid => ⟨d.kind, rfl, hid⟩

/-- A definition is refused just when its key is taken. -/
theorem refusal?_eq (l : Library) (d : Definition) :
    l.refusal? d = if d.key ∈ l.keys then some d.clash else none := by
  unfold refusal? Definition.clash
  by_cases h : d.kind.space = .quirk
  · simp only [if_pos (Kind.space_eq_quirk_iff.1 h), if_pos h, mem_keys_of_trait h,
      List.contains_iff_mem]
  · simp only [if_neg (mt Kind.space_eq_quirk_iff.2 h), if_neg h, mem_keys_of_not_trait h,
      List.contains_iff_mem]

end Library

/-! ### Offers -/

/-- What is offered to a library: an entry of a file, or a definition that was made in another
way. -/
inductive Offer
  | read (e : Entry)
  | made (d : Definition)

namespace Offer

/-- The definition that is offered, or why there is none. -/
def definition : Offer → Except Refusal Definition
  | read e => e.definition
  | made d => .ok d

/-- What a sound offer asks for. -/
def key? (o : Offer) : Option (Kind × DefId) := o.definition.toOption.map (·.key)

/-- What becomes of an offer when some keys are taken. -/
def verdict (taken : List (Kind × DefId)) (o : Offer) : Except Refusal Definition :=
  match o.definition with
  | .ok d => if d.key ∈ taken then .error d.clash else .ok d
  | .error reason => .error reason

/-- What becomes of offers one after the other.  Behind a sound one its key is taken. -/
def verdicts (taken : List (Kind × DefId)) : List Offer → List (Offer × Except Refusal Definition)
  | [] => []
  | o :: rest => (o, o.verdict taken) :: verdicts (taken ++ o.key?.toList) rest

/-- What the report says of a verdict.  It does not speak of definitions that came in another
way. -/
def rejection? (o : Offer) (v : Except Refusal Definition) : Option Rejection :=
  match o with
  | read e => Library.rejection? e v
  | made _ => none

/-- The definitions that find their keys free. -/
def newcomers (taken : List (Kind × DefId)) (offers : List Offer) : List Definition :=
  (verdicts taken offers).filterMap (·.2.toOption)

/-- What the report says of the others. -/
def turnedAway (taken : List (Kind × DefId)) (offers : List Offer) : List Rejection :=
  (verdicts taken offers).filterMap fun v => v.1.rejection? v.2

variable {taken : List (Kind × DefId)}

theorem verdicts_append (offers more : List Offer) : verdicts taken (offers ++ more) =
    verdicts taken offers ++ verdicts (taken ++ offers.filterMap (·.key?)) more := by
  induction offers generalizing taken with
  | nil => simp [verdicts]
  | cons o offers ih => cases hk : o.key? <;> simp [verdicts, ih, hk]

theorem newcomers_cons (o : Offer) (rest : List Offer) : newcomers taken (o :: rest) =
    (o.verdict taken).toOption.toList ++ newcomers (taken ++ o.key?.toList) rest := by
  cases hv : (o.verdict taken).toOption <;> simp [newcomers, verdicts, hv]

theorem turnedAway_cons (o : Offer) (rest : List Offer) : turnedAway taken (o :: rest) =
    (o.rejection? (o.verdict taken)).toList ++ turnedAway (taken ++ o.key?.toList) rest := by
  cases hr : o.rejection? (o.verdict taken) <;> simp [turnedAway, verdicts, hr]

section

variable {o : Offer} {d : Definition}

theorem verdict_of_error {reason : Refusal} (h : o.definition = .error reason) :
    o.verdict taken = .error reason := by
  simp [verdict, h]

theorem verdict_of_taken (h : o.definition = .ok d) (htaken : d.key ∈ taken) :
    o.verdict taken = .error d.clash := by
  simp [verdict, h, htaken]

theorem verdict_of_free (h : o.definition = .ok d) (hfree : d.key ∉ taken) :
    o.verdict taken = .ok d := by
  simp [verdict, h, hfree]

end

/-- It does not matter in which order keys were taken, or how often. -/
theorem verdict_congr {taken' : List (Kind × DefId)} (h : ∀ key, key ∈ taken ↔ key ∈ taken')
    (o : Offer) : o.verdict taken = o.verdict taken' := by
  simp only [verdict, h]

/-- An entry is judged as the library judges it. -/
theorem verdict_read (l : Library) (e : Entry) : (read e).verdict l.keys = l.verdict e := by
  simp only [verdict, definition, Library.verdict]
  cases e.definition with
  | error reason => rfl
  | ok d =>
    simp only [bind, Except.bind, l.refusal?_eq]
    split_ifs <;> rfl

end Offer

/-- The entries of a file, if it is a content file. -/
def entriesOfBytes? (bytes : List UInt8) : Option (List Entry) :=
  (String.fromUTF8? (ByteArray.mk bytes.toArray)).bind contentEntries?

/-- The entries of files, up to the first that is no content file. -/
def entriesOfFiles : List (List UInt8) → List Entry
  | [] => []
  | bytes :: rest => match entriesOfBytes? bytes with
    | some entries => entries ++ entriesOfFiles rest
    | none => []

/-- What a step offers, in order. -/
def LoadStep.offers : LoadStep → List Offer
  | .text t => ((contentEntries? t).getD []).map .read
  | .file bytes => (entriesOfFiles [bytes]).map .read
  | .folder tree => (entriesOfFiles ((tree.bind Node.contentFiles?).getD [])).map .read
  | .definition d => [.made d]

namespace Loader

variable {l : Loader}

/-- Take an offer in. -/
def serve (l : Loader) : Offer → Loader
  | .read e => (l.offerOrStop e).1
  | .made d => (l.add d).toOption.getD l

/-- An offer is taken in where its key is free, and else leaves the library as it is. -/
theorem serve_lenient (hl : l.strict = false) (o : Offer) : l.serve o =
    { l with
      library := (o.verdict l.library.keys).toOption.elim l.library l.library.append
      rejected := l.rejected ++ (o.rejection? (o.verdict l.library.keys)).toList } := by
  obtain ⟨library, rejected, strict⟩ := l
  obtain rfl : strict = false := hl
  cases o with
  | read e =>
    rw [serve, offerOrStop_lenient, Offer.verdict_read]
    rfl
  | made d =>
    rw [serve, add, Library.add, library.refusal?_eq]
    simp only [Offer.verdict, Offer.definition, Offer.rejection?]
    split_ifs <;> simp [Except.toOption, Functor.map, Except.map]

/-- The keys that are taken after an offer.  A refused one that is sound finds its key taken. -/
theorem mem_keys_serve (hl : l.strict = false) (o : Offer) (key : Kind × DefId) :
    key ∈ (l.serve o).library.keys ↔ key ∈ l.library.keys ++ o.key?.toList := by
  rw [serve_lenient hl, List.mem_append]
  cases hd : o.definition with
  | error reason => simp [Offer.key?, Offer.verdict_of_error hd, hd, Except.toOption]
  | ok d =>
    by_cases hmem : d.key ∈ l.library.keys
    · have hkey : key = d.key → key ∈ l.library.keys := fun h => h ▸ hmem
      simpa [Offer.key?, Offer.verdict_of_taken hd hmem, hd, Except.toOption] using hkey
    · simp [Offer.key?, Offer.verdict_of_free hd hmem, hd, Except.toOption,
        Library.mem_keys_append]

/-- What many offers do: newcomers come behind what was there, and the others are reported. -/
theorem serveAll_lenient (hl : l.strict = false) {taken : List (Kind × DefId)}
    (htaken : ∀ key, key ∈ taken ↔ key ∈ l.library.keys) (offers : List Offer) :
    (∀ k, (offers.foldl serve l).library.ofKind k =
      l.library.ofKind k ++ (Offer.newcomers taken offers).filter (·.kind = k)) ∧
    (offers.foldl serve l).rejected = l.rejected ++ Offer.turnedAway taken offers := by
  induction offers generalizing l taken with
  | nil => simp [Offer.newcomers, Offer.turnedAway, Offer.verdicts]
  | cons o offers ih =>
    have hserve := serve_lenient hl o
    have hstrict : (l.serve o).strict = false := hserve ▸ hl
    have hkeys : ∀ key, key ∈ taken ++ o.key?.toList ↔ key ∈ (l.serve o).library.keys := by
      simp [mem_keys_serve hl, htaken]
    obtain ⟨hsections, hreport⟩ := ih hstrict hkeys
    rw [← Offer.verdict_congr htaken] at hserve
    refine ⟨fun k => ?_, ?_⟩
    · rw [List.foldl_cons, hsections, hserve, Offer.newcomers_cons, List.filter_append,
        ← List.append_assoc]
      congr 1
      cases o.verdict taken with
      | error reason => simp [Except.toOption]
      | ok d => simp [Except.toOption, Library.ofKind_append, List.filter_singleton, eq_comm]
    · rw [List.foldl_cons, hreport, hserve, Offer.turnedAway_cons, List.append_assoc]

/-- A lenient loader takes all entries in, one after the other. -/
theorem each_offerOrStop_eq (hl : l.strict = false) (es : List Entry) :
    l.each offerOrStop es = ((es.map .read).foldl serve l, none) := by
  induction es generalizing l with
  | nil => rfl
  | cons e es ih =>
    obtain ⟨library, rejected, strict⟩ := l
    obtain rfl : strict = false := hl
    have hoffer := offerOrStop_lenient library rejected e
    rw [each, hoffer, List.map_cons, List.foldl_cons, serve, hoffer]
    exact ih rfl

theorem strict_serveAll (hl : l.strict = false) (offers : List Offer) :
    (offers.foldl serve l).strict = false := by
  induction offers generalizing l with
  | nil => exact hl
  | cons o offers ih => exact ih (serve_lenient hl o ▸ hl)

theorem load_eq_serveAll (hl : l.strict = false) (text : String) :
    (l.load text).1 = (((contentEntries? text).getD []).map .read).foldl serve l := by
  unfold load
  cases contentEntries? text with
  | none => rfl
  | some es => exact congrArg Prod.fst (each_offerOrStop_eq hl es)

theorem loadBytes_of_some (hl : l.strict = false) {bytes : List UInt8} {es : List Entry}
    (h : entriesOfBytes? bytes = some es) :
    l.loadBytes bytes = ((es.map .read).foldl serve l, none) := by
  obtain ⟨text, htext, hes⟩ := Option.bind_eq_some_iff.1 h
  simp only [loadBytes, htext, load, hes]
  exact each_offerOrStop_eq hl es

theorem loadBytes_of_none {bytes : List UInt8} (h : entriesOfBytes? bytes = none) :
    ∃ error, l.loadBytes bytes = (l, some error) := by
  cases htext : String.fromUTF8? (ByteArray.mk bytes.toArray) with
  | none => exact ⟨_, by simp [loadBytes, htext]; rfl⟩
  | some text =>
    simp only [entriesOfBytes?, htext, Option.bind_some] at h
    exact ⟨_, by simp [loadBytes, htext, load, h]; rfl⟩

/-- A file that cannot be read keeps the files behind it out. -/
theorem each_loadBytes_eq (hl : l.strict = false) (files : List (List UInt8)) :
    (l.each loadBytes files).1 = ((entriesOfFiles files).map .read).foldl serve l := by
  induction files generalizing l with
  | nil => rfl
  | cons bytes files ih =>
    unfold entriesOfFiles
    cases hes : entriesOfBytes? bytes with
    | none =>
      obtain ⟨error, hstop⟩ := loadBytes_of_none (l := l) hes
      simp [each, hstop]
    | some es =>
      simp only [each, loadBytes_of_some hl hes, List.map_append, List.foldl_append]
      exact ih (strict_serveAll hl _)

/-- A step takes its offers in, one after the other. -/
theorem take_eq_serveAll (hl : l.strict = false) (s : LoadStep) :
    l.take s = s.offers.foldl serve l := by
  cases s with
  | text text => exact load_eq_serveAll hl text
  | file bytes =>
    rw [take, LoadStep.offers, ← each_loadBytes_eq hl, each]
    split <;> simp_all [each]
  | folder tree =>
    rw [take, LoadStep.offers, ← each_loadBytes_eq hl, loadTree]
    cases tree.bind Node.contentFiles? <;> rfl
  | definition d => rfl

theorem takeAll_eq_serveAll (hl : l.strict = false) (steps : List LoadStep) :
    steps.foldl take l = (steps.flatMap (·.offers)).foldl serve l := by
  induction steps generalizing l with
  | nil => rfl
  | cons s steps ih =>
    rw [List.foldl_cons, take_eq_serveAll hl, ih (strict_serveAll hl _), List.flatMap_cons,
      List.foldl_append]

end Loader

/-! ### Sections of a file -/

/-- The first kind is loaded before the second, or is the same. -/
def Kind.NotAfter (k k' : Kind) : Prop := Kind.all.idxOf k ≤ Kind.all.idxOf k'

instance (k k' : Kind) : Decidable (k.NotAfter k') := inferInstanceAs (Decidable (_ ≤ _))

/-- Parts that stand under kinds are in the order of the kinds. -/
theorem pairwise_flatten_of_mapM {sections : List (String × Kind)}
    {f : String × Kind → Option (List Entry)}
    (hf : ∀ s part, f s = some part → ∀ e ∈ part, e.kind = s.2)
    (hs : sections.Pairwise fun s s' => s.2.NotAfter s'.2) {parts : List (List Entry)}
    (h : sections.mapM f = some parts) :
    parts.flatten.Pairwise (fun e e' => e.kind.NotAfter e'.kind) ∧
      ∀ e ∈ parts.flatten, ∃ s ∈ sections, e.kind = s.2 := by
  induction sections generalizing parts with
  | nil =>
    obtain rfl : [] = parts := by simpa using h
    simp
  | cons s sections ih =>
    obtain ⟨hfirst, hrest⟩ := List.pairwise_cons.1 hs
    obtain ⟨part, hpart, rest, hmap, rfl⟩ : ∃ part, f s = some part ∧
        ∃ rest, sections.mapM f = some rest ∧ part :: rest = parts := by
      simpa [List.mapM_cons, Option.bind_eq_some_iff] using h
    obtain ⟨hordered, hkinds⟩ := ih hrest hmap
    have hkind := hf s part hpart
    constructor
    · rw [List.flatten_cons, List.pairwise_append]
      refine ⟨?_, hordered, fun e he e' he' => ?_⟩
      · refine List.pairwise_of_forall_mem_list fun e he e' he' => ?_
        rw [hkind e he, hkind e' he']
        exact le_rfl
      · obtain ⟨s', hs', hkind'⟩ := hkinds e' he'
        rw [hkind e he, hkind']
        exact hfirst s' hs'
    · intro e he
      rw [List.flatten_cons, List.mem_append] at he
      rcases he with he | he
      · exact ⟨s, List.mem_cons_self, hkind e he⟩
      · obtain ⟨s', hs', hkind'⟩ := hkinds e he
        exact ⟨s', List.mem_cons_of_mem s hs', hkind'⟩

/-- The entries of a file come section by section. -/
theorem pairwise_contentEntries {text : String} {es : List Entry}
    (h : contentEntries? text = some es) : es.Pairwise fun e e' => e.kind.NotAfter e'.kind := by
  obtain ⟨document, -, h⟩ := Option.bind_eq_some_iff.1 h
  obtain ⟨fields, -, h⟩ := Option.bind_eq_some_iff.1 h
  obtain ⟨parts, hparts, h⟩ := Option.bind_eq_some_iff.1 h
  obtain rfl : parts.flatten = es := Option.some.inj h
  refine (pairwise_flatten_of_mapM ?_ (by decide) hparts).1
  intro s part hpart e he
  obtain ⟨values, -, hpart⟩ := Option.bind_eq_some_iff.1 hpart
  obtain rfl : values.map (Entry.mk s.2) = part := Option.some.inj hpart
  obtain ⟨v, -, rfl⟩ := List.mem_map.1 he
  rfl

/-! ### First come, first served -/

/-- What becomes of a loader that is offered some definitions. -/
structure Loader.Serves (l l' : Loader) (offers : List Offer) : Prop where
  /-- What was there stays where it is.  Newcomers come behind it, in the order of the offers. -/
  sections : ∀ k, l'.library.ofKind k =
    l.library.ofKind k ++ (Offer.newcomers l.library.keys offers).filter (·.kind = k)
  report : l'.rejected = l.rejected ++ Offer.turnedAway l.library.keys offers
  /-- Whoever comes later is told that the key is taken. -/
  taken : ∀ before e after d, offers = before ++ .read e :: after → e.definition = .ok d →
    (d.key ∈ l.library.keys ∨ ∃ o ∈ before, o.key? = some d.key) →
    ⟨e.kind, e.label, d.clash⟩ ∈ l'.rejected
  /-- What is no sound definition is never taken in, whatever it asks for. -/
  unsound : ∀ e reason, .read e ∈ offers → e.definition = .error reason →
    ⟨e.kind, e.label, reason⟩ ∈ l'.rejected

namespace Offer

variable {taken : List (Kind × DefId)} {before after : List Offer} {e : Entry}

theorem mem_turnedAway {reason : Refusal}
    (h : (read e).verdict (taken ++ before.filterMap (·.key?)) = .error reason) :
    ⟨e.kind, e.label, reason⟩ ∈ turnedAway taken (before ++ .read e :: after) := by
  refine List.mem_filterMap.2 ⟨(.read e, .error reason), ?_, rfl⟩
  rw [verdicts_append, verdicts, h]
  simp

end Offer

theorem Loader.serves {l : Loader} (hl : l.strict = false) (steps : List LoadStep) :
    l.Serves (steps.foldl take l) (steps.flatMap (·.offers)) := by
  rw [takeAll_eq_serveAll hl]
  obtain ⟨hsections, hreport⟩ := serveAll_lenient hl (fun _ => .rfl) (steps.flatMap (·.offers))
  refine ⟨hsections, hreport, ?_, ?_⟩
  · intro before e after d hoffers hd htaken
    rw [hreport, hoffers]
    refine List.mem_append_right _ (Offer.mem_turnedAway (Offer.verdict_of_taken hd ?_))
    rw [List.mem_append, List.mem_filterMap]
    exact htaken
  · intro e reason he hd
    obtain ⟨before, after, hoffers⟩ := List.append_of_mem he
    rw [hreport, hoffers]
    exact List.mem_append_right _ (Offer.mem_turnedAway (Offer.verdict_of_error hd))

/-- **Content does not depend on how folders are listed, and whoever comes first stays.**  Trees that
differ in the order of their folders load alike, into any loader: their files come in the order of
the paths, and the entries of a file section by section.  And while a loader is lenient, each section
only grows at its end, by those sound definitions whose key is free when they are offered; all others
are reported. -/
theorem Loader.first_comers_stay :
    (∀ (l : Loader) (t t' : Node), t.WellNamed → t.Relisted t' →
      l.loadTree (some t) = l.loadTree (some t')) ∧
    (∀ children, (Node.folder children).WellNamed → ∃ files,
      Node.IsListing "" (.folder children) files ∧
      (Node.folder children).contentFiles? = some (files.map (·.2))) ∧
    (∀ text es, contentEntries? text = some es →
      es.Pairwise fun e e' => e.kind.NotAfter e'.kind) ∧
    ∀ (l : Loader) (steps : List LoadStep), l.strict = false →
      l.Serves (steps.foldl take l) (steps.flatMap (·.offers)) := by
  refine ⟨fun l t t' h ht => l.loadTree_relisted h ht, ?_, fun _ _ => pairwise_contentEntries,
    fun l steps hl => serves hl steps⟩
  intro children h
  obtain ⟨files, hfiles, hbelow⟩ := Node.exists_listing h ""
  exact ⟨files, hfiles, congrArg some hbelow⟩

/-! ### Two shelves -/

namespace Larder

/-- A file with a quirk, and with a failing that is called vain. -/
def jar (quirk : String) : String :=
  "(failings: [(id: \"vain\")], quirks: [(id: \"" ++ quirk ++ "\")])"

/-- A shelf above another one, and something that is no content. -/
def shelves : List (String × Node) := [
  ("top.ron", .file (jar "proud").toUTF8.toList),
  ("label.txt", .file [0xFF]),
  ("lower", .folder [
    ("right.ron", .file (jar "calm").toUTF8.toList),
    ("left.ron", .file (jar "vain").toUTF8.toList)])]

/-- The same shelves, seen in another order. -/
def turned : List (String × Node) := [
  ("lower", .folder [
    ("left.ron", .file (jar "vain").toUTF8.toList),
    ("right.ron", .file (jar "calm").toUTF8.toList)]),
  ("top.ron", .file (jar "proud").toUTF8.toList),
  ("label.txt", .file [0xFF])]

/-- The lower shelf, jar by jar. -/
def steps : List LoadStep := [.text (jar "vain"), .text (jar "calm")]

theorem wellNamed_shelves : (Node.folder shelves).WellNamed := by
  simp [shelves, Node.wellNamed_folder, Node.WellNamed.file]

theorem shelves_relisted : (Node.folder shelves).Relisted (.folder turned) := by
  refine .trans (.child [_, _] [] _ (.folder (.swap ..))) (.folder ?_)
  exact .trans (.cons _ (.swap ..)) (.swap ..)

theorem exists_entries : ∃ es, contentEntries? (jar "calm") = some es := by
  have h : (contentEntries? (jar "calm")).isSome = true := by decide +kernel
  exact Option.isSome_iff_exists.1 h

/-- The quirk stays vain, and no failing is. -/
theorem vain_stays :
    (∀ l : Loader, l.loadTree (some (.folder shelves)) = l.loadTree (some (.folder turned))) ∧
    (∃ files, Node.IsListing "" (.folder shelves) files ∧
      (Node.folder shelves).contentFiles? = some (files.map (·.2))) ∧
    (∃ es, contentEntries? (jar "calm") = some es ∧
      es.Pairwise fun e e' => e.kind.NotAfter e'.kind) ∧
    (Loader.start false).Serves (steps.foldl Loader.take (Loader.start false))
      (steps.flatMap (·.offers)) ∧
    (steps.foldl Loader.take (Loader.start false)).library.traitIds = ["vain", "calm"] := by
  obtain ⟨hlisted, hfiles, hsections, hserves⟩ := Loader.first_comers_stay
  obtain ⟨es, hes⟩ := exists_entries
  exact ⟨fun l => hlisted l _ _ wellNamed_shelves shelves_relisted,
    hfiles shelves wellNamed_shelves, ⟨es, hes, hsections _ es hes⟩,
    hserves (Loader.start false) steps rfl, by decide +kernel⟩

end Larder

end Reckoning
