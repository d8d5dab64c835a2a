import Mathlib.Data.List.Induction
import Mathlib.Data.String.Basic
import Reckoning.Proofs.Attempt.ExactAxes
import Reckoning.Proofs.Content.Tables

/-!
# Factors and blame

The factors of a record are the ids of everything that took part, each where it is mentioned first,
and blame is the share of them that a trait mentions first.

* `firstOfEach_append`, `ids_firstOfEach`: of each id the first contribution is kept.
* `Attempt.mentions` lists the ids from the character, the items, the room and the library, without
  a look at what is added; `Attempt.mentions_eq` says that these are the participants.
* `Attempt.TellsFactors` is what a record tells of its factors, and
  `Attempt.record_tellsFactors` says that every record tells it.
-/

namespace Reckoning

/-! ### The first contribution of each id -/

theorem takesPart_append (cs ds : List Contribution) (id : DefId) :
    takesPart (cs ++ ds) id = (takesPart cs id || takesPart ds id) :=
  List.any_append

theorem takesPart_firstOfEach (cs : List Contribution) (id : DefId) :
    takesPart (firstOfEach cs) id = takesPart cs id := by
  induction cs using List.reverseRecOn generalizing id with
  | nil => rfl
  | append_singleton cs c ih =>
    rw [firstOfEach_concat, takesPart_append]
    split_ifs with hc
    · -- the id of the last one was seen, so it makes no difference
      rw [ih, eq_comm, Bool.or_eq_left_iff_imp]
      intro h
      have hid : c.id = id := by simpa [takesPart] using h
      rw [← hid, ← ih]
      exact hc
    · rw [takesPart_append, ih]

/-- What comes first in a list comes first in front of another list, and of the other list what is
new does. -/
theorem firstOfEach_append (cs ds : List Contribution) :
    firstOfEach (cs ++ ds) =
      firstOfEach cs ++ (firstOfEach ds).filter fun d => !takesPart cs d.id := by
  induction ds using List.reverseRecOn with
  | nil => simp [firstOfEach]
  | append_singleton ds d ih =>
    rw [← List.append_assoc, firstOfEach_concat, firstOfEach_concat, takesPart_firstOfEach,
      takesPart_append, takesPart_firstOfEach, ih]
    cases hc : takesPart cs d.id <;> cases hd : takesPart ds d.id <;> simp [hc]

theorem eraseDups_concat {α : Type} [DecidableEq α] (xs : List α) (x : α) :
    (xs ++ [x]).eraseDups = if x ∈ xs then xs.eraseDups else xs.eraseDups ++ [x] := by
  rw [List.eraseDups_append]
  by_cases hx : x ∈ xs <;> simp [List.removeAll, hx, List.eraseDups_cons]

theorem ids_firstOfEach (cs : List Contribution) :
    (firstOfEach cs).map (·.id) = (cs.map (·.id)).eraseDups := by
  induction cs using List.reverseRecOn with
  | nil => rfl
  | append_singleton cs c ih =>
    have hc : takesPart cs c.id = true ↔ c.id ∈ cs.map (·.id) := by
      rw [takesPart_eq_true, List.mem_map]
    rw [firstOfEach_concat, takesPart_firstOfEach, List.map_append, List.map_singleton,
      eraseDups_concat, ← ih]
    simp only [hc]
    split_ifs
    · rfl
    · rw [List.map_append, List.map_singleton]

theorem nodup_ids_firstOfEach (cs : List Contribution) : ((firstOfEach cs).map (·.id)).Nodup := by
  induction cs using List.reverseRecOn with
  | nil => exact List.nodup_nil
  | append_singleton cs c ih =>
    rw [firstOfEach_concat]
    split_ifs with hc
    · exact ih
    · rw [List.map_append, List.map_singleton, List.nodup_append_comm]
      refine List.nodup_cons.2 ⟨fun hm => hc ?_, ih⟩
      exact takesPart_eq_true.2 (List.mem_map.1 hm)

/-! ### Mentions -/

/-- An id that is mentioned, with the kind of source that it is mentioned for. -/
structure Mention where
  id : DefId
  origin : Origin
deriving DecidableEq, Repr

/-- A contribution mentions its id. -/
def Contribution.mention (c : Contribution) : Mention := ⟨c.id, c.origin⟩

namespace Attempt

variable (library : Library) (a : Attempt)

/-- One of the triggers matches the circumstances. -/
def matchesNow (ts : List Trigger) : Bool := ts.any (·.holdsIn a.circumstances)

/-- None of the triggers matches the circumstances, but one waited for the outcome. -/
def matchesLate (ts : List Trigger) : Bool :=
  !a.matchesNow ts && ts.any (·.holdsAfter (a.outcome library))

/-- The character's quirks, failings and useless bits with triggers that pass a test. -/
def traitMentions (p : List Trigger → Bool) : List Mention :=
  (a.character.quirks.filter fun id => (library.quirk? id).any (p ·.triggers)).map (⟨·, .quirk⟩)
    ++ (a.character.failings.filter fun id =>
      (library.failing? id).any (p ·.triggers)).map (⟨·, .failing⟩)
    ++ (a.character.uselessBits.filter fun id =>
      (library.uselessBit? id).any (p ·.triggers)).map (⟨·, .uselessBit⟩)

/-- The quirks of each item that bend the action. -/
def itemMentions : List Mention :=
  a.possessed.flatMap fun i =>
    (i.quirks.filter fun id => (library.itemQuirk? id).any (·.appliesTo a.action.id)).map
      (⟨·, .item⟩)

/-- The quirks of the room that bend the action, in rooms of its type. -/
def placeMentions : List Mention :=
  (a.room.environmentalQuirks.filter fun id => (library.environmentalQuirk? id).any fun q =>
    (q.roomTypes.isEmpty || q.roomTypes.contains a.room.roomType) &&
      (q.actions.isEmpty || q.actions.contains a.action.id)).map (⟨·, .environment⟩)

/-- The lack of an item, if it has points on some axis. -/
def lackMentions : List Mention :=
  if a.unarmed && Axis.all.any fun axis => a.action.unarmedModifiers.get axis != 0 then
    [⟨⟨s!"unarmed:{a.action.id}"⟩, .item⟩]
  else
    []

/-- The rows of the quirks of items that bend the action, each table in ascending order: which quirk
of an item interacts with which quirk of a character. -/
def rows : List (DefId × DefId) :=
  (a.wieldedQuirks library).flatMap fun q =>
    (q.interactions.insertionSort fun r s => r.quirk.atMost s.quirk).map fun r => (q.id, r.quirk)

/-- A row mentions its quirks together, if the second is one of the character's and mentioned
already. -/
def mentionPair (told : List Mention) (row : DefId × DefId) : List Mention :=
  if row.2 ∈ (a.quirks library).map (·.id) ∧ row.2 ∈ told.map (·.id) then
    told ++ [⟨⟨s!"{row.1}×{row.2}"⟩, .item⟩]
  else
    told

/-- Everything that is mentioned, in order. -/
def mentions : List Mention :=
  (a.rows library).foldl (a.mentionPair library)
      (a.traitMentions library a.matchesNow ++ a.itemMentions library ++ a.placeMentions library
        ++ a.lackMentions)
    ++ a.traitMentions library (a.matchesLate library)

/-- A trait of the character is the first to mention an id. -/
def isOwn (id : DefId) : Bool :=
  ((a.mentions library).find? (·.id == id)).any (·.origin.isControlled)

variable {library a}

/-! ### Participants are mentioned -/

/-- What a look-up leads to is mentioned by the id that was looked up. -/
theorem map_mention {β : Type} {f : DefId → Option β} {id : β → DefId}
    (hf : ∀ i d, f i = some d → id d = i) (p : β → Bool) (o : Origin) (ids : List DefId) :
    ((ids.filterMap f).filter p).map (fun d => Mention.mk (id d) o) =
      (ids.filter fun i => (f i).any p).map (⟨·, o⟩) := by
  rw [← map_filter_filterMap hf p ids, List.map_map]
  rfl

/-- Traits are mentioned by a test of their triggers. -/
theorem map_mention_traits {p : List Trigger → Bool} {q : Source → Bool}
    (h : ∀ id o ts m, q ⟨id, o, .triggered ts, m⟩ = p ts) :
    (((a.traits library).filter q).map (·.contribution)).map (·.mention) =
      a.traitMentions library p := by
  unfold traits traitMentions
  simp only [List.filter_append, List.map_append, List.filter_map, List.map_map]
  have hq : q ∘ Quirk.source = fun d => p d.triggers := funext fun d => h _ _ _ _
  have hf : q ∘ Failing.source = fun d => p d.triggers := funext fun d => h _ _ _ _
  have hb : q ∘ UselessBit.source = fun d => p d.triggers := funext fun d => h _ _ _ _
  change _ ++ _ ++ _ = _
  rw [hq, hf, hb]
  exact congrArg₂ _ (congrArg₂ _ (map_mention id_of_find? _ _ _) (map_mention id_of_find? _ _ _))
    (map_mention id_of_find? _ _ _)

theorem map_mention_itemQuirks :
    ((a.itemQuirks library).map (·.source.contribution)).map (·.mention) =
      a.itemMentions library := by
  unfold itemQuirks itemMentions
  rw [List.filter_flatMap, List.map_map, List.map_flatMap]
  exact List.flatMap_congr fun i _ => map_mention id_of_find? _ _ _

theorem map_mention_environmentalQuirks :
    ((a.environmentalQuirks library).map (·.source.contribution)).map (·.mention) =
      a.placeMentions library := by
  unfold environmentalQuirks placeMentions
  rw [List.map_map]
  exact map_mention id_of_find? _ _ _

theorem map_mention_lack : a.lack.map (·.mention) = a.lackMentions := by
  unfold lack lackMentions
  rw [Modifiers.isNeutral_eq, List.not_all_eq_any_not, apply_ite (List.map _)]
  rfl

theorem map_mention_gathered :
    (a.gathered library).map (·.mention) =
      a.traitMentions library a.matchesNow ++ a.itemMentions library ++ a.placeMentions library
        ++ a.lackMentions := by
  unfold gathered
  rw [List.map_append, List.map_append, List.map_append, map_mention_itemQuirks,
    map_mention_environmentalQuirks, map_mention_lack,
    map_mention_traits (p := a.matchesNow) fun _ _ _ _ => rfl]

theorem map_mention_late :
    ((a.late library).map (·.contribution)).map (·.mention) =
      a.traitMentions library (a.matchesLate library) :=
  map_mention_traits (p := a.matchesLate library) fun _ _ _ _ => rfl

theorem takesPart_iff_mem_mentions {cs : List Contribution} {id : DefId} :
    takesPart cs id = true ↔ id ∈ (cs.map (·.mention)).map (·.id) := by
  rw [takesPart_eq_true, List.map_map, List.mem_map]
  rfl

/-- A row adds what it mentions. -/
theorem map_mention_pairing? (cs : List Contribution) (r : ItemQuirk × Interaction) :
    (cs ++ (a.pairing? library cs r).toList).map (·.mention) =
      a.mentionPair library (cs.map (·.mention)) (r.1.id, r.2.quirk) := by
  unfold mentionPair
  split_ifs with h
  · obtain ⟨hq, ht⟩ := h
    obtain ⟨q, hq, hid⟩ := List.mem_map.1 hq
    rw [← takesPart_iff_mem_mentions] at ht
    rw [(pairing?_eq_some library a).2 ⟨q, hq, hid, hid ▸ ht, rfl⟩, Option.toList_some,
      List.map_append, ← hid]
    rfl
  · cases hp : a.pairing? library cs r with
    | none => rw [Option.toList_none, List.append_nil]
    | some c =>
      obtain ⟨q, hq, hid, ht, -⟩ := (pairing?_eq_some library a).1 hp
      refine absurd ⟨List.mem_map.2 ⟨q, hq, hid⟩, ?_⟩ h
      exact takesPart_iff_mem_mentions.1 (hid ▸ ht)

theorem map_mention_addPairings (cs : List Contribution) (rs : List (ItemQuirk × Interaction)) :
    (a.addPairings library cs rs).map (·.mention) =
      (rs.map fun r => (r.1.id, r.2.quirk)).foldl (a.mentionPair library)
        (cs.map (·.mention)) := by
  induction rs generalizing cs with
  | nil => rfl
  | cons r rs ih => rw [addPairings, ih, map_mention_pairing?, List.map_cons, List.foldl_cons]

/-- The rows are looked at in ascending order, as tables keep them so. -/
theorem map_interactions (hl : library.TablesAscend) :
    (a.interactions library).map (fun r => (r.1.id, r.2.quirk)) = a.rows library := by
  unfold interactions rows
  rw [itemQuirks_eq, List.map_flatMap]
  refine List.flatMap_congr fun q hq => ?_
  have hq : Ascending q.interactions :=
    hl q (mem_of_mem_itemQuirks (itemQuirks_eq (a := a) ▸ hq))
  rw [hq.insertionSort_eq, List.map_map]
  rfl

/-- **The participants are what is mentioned**, one for one. -/
theorem mentions_eq (hl : library.TablesAscend) :
    (a.participants library).map (·.mention) = a.mentions library := by
  unfold participants contributions mentions
  rw [List.map_append, map_mention_late, map_mention_addPairings, map_mention_gathered,
    map_interactions hl]

/-! ### Factors -/

/-- A factor is the character's own where a trait mentions it first. -/
theorem isOwn_of_mem_factors (hl : library.TablesAscend) {c : Contribution}
    (hc : c ∈ a.factors library) : a.isOwn library c.id = c.origin.isControlled := by
  have hf : (a.participants library).find? (·.id == c.id) = some c := mem_firstOfEach.1 hc
  unfold isOwn
  rw [← mentions_eq hl, List.find?_map]
  change (((a.participants library).find? (·.id == c.id)).map (·.mention)).any _ = _
  rw [hf]
  rfl

/-- What a record tells of what took part. -/
structure TellsFactors (library : Library) (a : Attempt) (r : ActionRecord) : Prop where
  /-- The factors are what is mentioned, each id in the place where it comes first. -/
  factors : r.factors = ((a.mentions library).map (·.id)).eraseDups
  /-- No factor is named twice. -/
  nodup : r.factors.Nodup
  /-- There are no more factors of the character's own than factors. -/
  share : r.factors.countP (a.isOwn library) ≤ r.factors.length
  /-- Blame is the share of the character's own factors, and nothing where there is no factor. -/
  blame : r.blameWeight =
    if r.factors = [] then 0.0
    else (r.factors.countP (a.isOwn library)).toFloat / r.factors.length.toFloat

/-- **Every record tells what took part and whose it was.** -/
theorem record_tellsFactors {library : Library} (hl : library.TablesAscend) (a : Attempt)
    (threshold : Float) : TellsFactors library a (a.record library threshold) where
  factors := by
    change (a.factors library).map (·.id) = _
    unfold factors
    rw [ids_firstOfEach, ← mentions_eq hl, List.map_map]
    rfl
  nodup := nodup_ids_firstOfEach _
  share := List.countP_le_length
  blame := by
    have hown : ((a.factors library).map (·.id)).countP (a.isOwn library) =
        (a.factors library).countP (·.origin.isControlled) := by
      rw [List.countP_map]
      exact List.countP_congr fun c hc => by rw [Function.comp_apply, isOwn_of_mem_factors hl hc]
    change a.blame library = if (a.factors library).map (·.id) = [] then 0.0
      else (((a.factors library).map (·.id)).countP (a.isOwn library)).toFloat
        / ((a.factors library).map (·.id)).length.toFloat
    rw [hown, List.length_map]
    unfold blame
    simp only [List.isEmpty_iff, List.map_eq_nil_iff]

end Attempt

/-! ### A bent file in two pairs of hands -/

namespace Workshop

/-- A content file.  The table of its item quirk is not written in order. -/
def text : String :=
  "(quirks: [(id: \"steady\"), (id: \"relieved\", triggers: [\"on_success\"]), (id: \"deft\")], " ++
  "item_quirks: [(id: \"bent\", interactions: " ++
  "\x7b\"steady\": (effect: dampen), \"deft\": (effect: amplify)\x7d)])"

/-- The library that it makes. -/
def library : Library := (Loader.run true ([text].map .text)).library

/-- Somebody with every quirk of the library, and with one that it does not know. -/
def character : Character where
  id := ⟨1⟩
  account := ""
  sex := .unspecified
  attributes := ⟨[6, 4, 3, 5, 2, 7, 5], rfl, by decide⟩
  quirks := ["steady", "relieved", "vain", "deft"]
  failings := []
  uselessBits := ["whistler"]
  reputation := ⟨0, ""⟩
  issuedSeed := ""
  createdAt := .epoch
  active := true
  sound := by decide

/-- They tinker with a bent file. -/
def attempt : Attempt where
  character := character
  action := ⟨"tinker", 0, 0, 0, false, [], ∅, ""⟩
  room := ⟨"shed", "workshop", [], false⟩
  requested := [⟨7⟩]
  possessed := [⟨⟨7⟩, "file", ⟨1⟩, .capture character .epoch, ["bent"], .epoch⟩]
  rushed := false
  seed := "dawn"
  timestamp := .epoch

/-- What takes part: interactions in the order of the quirks, and the relief in the end. -/
def named : List DefId :=
  [⟨"steady"⟩, ⟨"deft"⟩, ⟨"bent"⟩, ⟨"bent×deft"⟩, ⟨"bent×steady"⟩, ⟨"relieved"⟩]

theorem half_their_own : library.TablesAscend ∧
    (attempt.record library 0.5).factors = named ∧
    (attempt.record library 0.5).blameWeight = (3 : Nat).toFloat / (6 : Nat).toFloat := by
  have hc : library.ComesFrom (Loader.run true ([text].map .text)) := .inl rfl
  have hl : library.TablesAscend := hc.tablesAscend
  have h := Attempt.record_tellsFactors hl attempt 0.5
  have hm : ((attempt.mentions library).map (·.id)).eraseDups = named ∧
      named.countP (attempt.isOwn library) = 3 := by decide +kernel
  have hf : (attempt.record library 0.5).factors = named := h.factors.trans hm.1
  refine ⟨hl, hf, ?_⟩
  rw [h.blame, hf, hm.2, if_neg (by decide)]
  rfl

end Workshop

end Reckoning
