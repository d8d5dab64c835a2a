import Mathlib.Data.String.Basic
import Reckoning.Proofs.Content.Checks
import Reckoning.Proofs.Content.Loading
import Reckoning.Proofs.Results
import Reckoning.Proofs.SaturatingSum

/-!
# Limits of content

A definition that comes out of a content file has passed the checks of its kind, so its integers
are small.

* `Modifiers.Within` bounds the points of a set of modifiers on every axis.
* `Definition.InLimits` lists the bounds of each kind of definition.
* `inLimits_of_definition`: every entry that makes a definition makes one within its limits.
* `Library.ComesFrom.inLimits`: so does every library that is loaded from texts.
-/

namespace Reckoning

/-! ### Modifiers -/

namespace Modifiers

/-- The points on every axis are at most `limit`, up to their sign. -/
def Within (limit : Int) (m : Modifiers) : Prop :=
  ∀ a, -limit ≤ m.get a ∧ m.get a ≤ limit

theorem get_addAll (m : Modifiers) (pairs : List (Axis × Int)) (a : Axis) :
    (m.addAll pairs).get a =
      ((pairs.filter (·.1 = a)).map (·.2)).foldl (fun n k => saturate (n + k)) (m.get a) :=
  foldl_onAxis (fun m : Modifiers => m.get a) (fun m p => m.add p.1 p.2) _ a
    (fun s p => get_add s p.1 p.2 a) pairs m

/-- Pairs that name every axis once put no more on an axis than one of them does. -/
theorem within_ofPairs {limit : Int} (h0 : 0 ≤ limit) {pairs : List (Axis × Int)}
    (hn : (pairs.map (·.1)).Nodup) (hb : ∀ p ∈ pairs, -limit ≤ p.2 ∧ p.2 ≤ limit) :
    (ofPairs pairs).Within limit := by
  intro a
  have hl : (pairs.filter (·.1 = a)).length ≤ 1 := by
    have hc := List.nodup_iff_count_le_one.1 hn a
    rw [List.count_eq_countP, List.countP_map, List.countP_eq_length_filter] at hc
    simpa [Function.comp_def, beq_eq_decide] using hc
  have hp : ∀ p ∈ pairs.filter (·.1 = a), -limit ≤ p.2 ∧ p.2 ≤ limit :=
    fun p hp => hb p (List.mem_of_mem_filter hp)
  unfold ofPairs
  rw [get_addAll, get_empty]
  -- at most one pair names the axis, so at most one addition happens
  generalize pairs.filter (·.1 = a) = named at hl hp
  rcases named with _ | ⟨p, _ | ⟨q, rest⟩⟩
  · simp only [List.map_nil, List.foldl_nil]
    omega
  · have := hp p List.mem_cons_self
    simp only [List.map_cons, List.map_nil, List.foldl_cons, List.foldl_nil, Int.zero_add]
    unfold saturate leastPoints mostPoints
    omega
  · simp at hl

end Modifiers

theorem Axis.name_of_ofName {text : String} {a : Axis} (h : Axis.ofName text = .ok a) :
    a.name = text := by
  unfold Axis.ofName at h
  cases hf : Axis.ofName? text with
  | none => rw [hf] at h; cases h
  | some b =>
    rw [hf] at h
    cases h
    simpa using List.find?_some hf

/-- Reading the names of axes loses neither a pair nor its place. -/
theorem Axis.names_of_mapM {raw : List (String × Int)} {pairs : List (Axis × Int)}
    (h : raw.mapM (fun p => (·, p.2) <$> Axis.ofName p.1) = .ok pairs) :
    pairs.map (fun p => (p.1.name, p.2)) = raw := by
  rw [mapM_eq_ok_iff] at h
  induction h with
  | nil => rfl
  | cons hr _ ih =>
    obtain ⟨a, ha, rfl⟩ := map_eq_ok_iff.1 hr
    rw [List.map_cons, ih, Axis.name_of_ofName ha]

/-- Modifiers that pass their check are within the limit, if no axis is named twice. -/
theorem within_of_checkModifiers {raw : List (String × Int)} {m : Modifiers}
    (h : checkModifiers raw = .ok m) (hn : (raw.map (·.1)).Nodup) : m.Within contentLimit := by
  obtain ⟨⟨⟩, hb, h⟩ := bind_eq_ok_iff.1 h
  obtain ⟨pairs, hm, rfl⟩ := map_eq_ok_iff.1 (mapError_eq_ok_iff.1 h)
  obtain rfl := Axis.names_of_mapM hm
  refine Modifiers.within_ofPairs (by decide) ?_ ?_
  · rw [List.map_map] at hn
    rw [show ((fun p : String × Int => p.1) ∘ fun p : Axis × Int => (p.1.name, p.2)) =
      Axis.name ∘ fun p : Axis × Int => p.1 from rfl, ← List.map_map] at hn
    exact hn.of_map _
  · intro p hp
    exact checkBounded_eq_ok_iff.1 (forM_eq_ok hb _ (List.mem_map_of_mem hp))

/-! ### Maps of a content file -/

namespace Ron

/-- Putting a value under a key keeps a sorted list sorted. -/
theorem pairwise_insertSorted {α : Type} {rows : List (String × α)}
    (h : rows.Pairwise fun p q => p.1 < q.1) (key : String) (v : α) :
    (insertSorted key v rows).Pairwise (fun p q => p.1 < q.1) ∧
      ∀ p ∈ insertSorted key v rows, p.1 = key ∨ p ∈ rows := by
  induction rows with
  | nil => simp [insertSorted]
  | cons r rows ih =>
    obtain ⟨hr, hrows⟩ := List.pairwise_cons.1 h
    obtain ⟨ih, him⟩ := ih hrows
    unfold insertSorted
    split_ifs with hlt heq
    · refine ⟨List.pairwise_cons.2 ⟨fun p hp => ?_, h⟩, by simp +contextual⟩
      rcases List.mem_cons.1 hp with rfl | hp
      · exact hlt
      · exact hlt.trans (hr p hp)
    · subst heq
      refine ⟨List.pairwise_cons.2 ⟨hr, hrows⟩, fun p hp => ?_⟩
      rcases List.mem_cons.1 hp with rfl | hp
      · exact .inl rfl
      · exact .inr (List.mem_cons_of_mem _ hp)
    · have hgt : r.1 < key := lt_of_le_of_ne (not_lt.1 hlt) (Ne.symm heq)
      refine ⟨List.pairwise_cons.2 ⟨fun p hp => ?_, ih⟩, fun p hp => ?_⟩
      · rcases him p hp with h | h
        · exact h ▸ hgt
        · exact hr p h
      · rcases List.mem_cons.1 hp with rfl | hp
        · exact .inr List.mem_cons_self
        · exact (him p hp).imp id (List.mem_cons_of_mem _)

theorem pairwise_foldl_insertSorted {α : Type} {rows : List (String × α)}
    (h : rows.Pairwise fun p q => p.1 < q.1) (pairs : List (String × α)) :
    (pairs.foldl (fun acc p => insertSorted p.1 p.2 acc) rows).Pairwise fun p q => p.1 < q.1 := by
  induction pairs generalizing rows with
  | nil => exact h
  | cons p pairs ih => exact ih (pairwise_insertSorted h p.1 p.2).1

/-- A map has no key twice. -/
theorem nodup_keys_of_mapOf {α : Type} {d : Decoder α} {v : Value} {rows : List (String × α)}
    (h : mapOf d v = some rows) : (rows.map (·.1)).Nodup := by
  unfold mapOf at h
  split at h
  · obtain ⟨pairs, -, hp⟩ := Option.bind_eq_some_iff.1 h
    cases hp
    exact List.pairwise_map.2 ((pairwise_foldl_insertSorted .nil pairs).imp ne_of_lt)
  · cases h

theorem nodup_keys_of_optional {fs : List (String × Value)} {name : String}
    {rows : List (String × Int)} (h : optional fs name [] Draft.points = some rows) :
    (rows.map (·.1)).Nodup := by
  unfold optional at h
  split at h
  · cases h
    exact List.nodup_nil
  · exact nodup_keys_of_mapOf h
  · cases h

end Ron

/-! ### Drafts and definitions -/

/-- No set of modifiers of the draft names an axis twice. -/
def Draft.NamesDistinct : Draft → Prop
  | .quirk d => (d.modifiers.map (·.1)).Nodup
  | .failing d => (d.modifiers.map (·.1)).Nodup
  | .uselessBit d => (d.bonus.map (·.1)).Nodup ∧ (d.penalty.map (·.1)).Nodup
  | .itemQuirk d => (d.modifiers.map (·.1)).Nodup
  | .itemType _ => True
  | .environmentalQuirk d => (d.modifiers.map (·.1)).Nodup
  | .action d => (d.unarmedModifiers.map (·.1)).Nodup
  | .reputationBias _ => True

/-- The integers of a definition are as small as content has to keep them. -/
def Definition.InLimits : Definition → Prop
  | .quirk d => d.modifiers.Within contentLimit
  | .failing d =>
    d.modifiers.Within contentLimit ∧ 0 ≤ d.leastMagnitude ∧ d.leastMagnitude ≤ d.mostMagnitude ∧
      d.mostMagnitude ≤ contentLimit
  | .uselessBit d => d.bonus.Within contentLimit ∧ d.penalty.Within contentLimit
  | .itemQuirk d => d.modifiers.Within contentLimit
  | .itemType _ => True
  | .environmentalQuirk d => d.modifiers.Within contentLimit
  | .action d =>
    d.unarmedModifiers.Within contentLimit ∧ 0 ≤ d.threshold ∧ d.threshold ≤ contentLimit ∧
      -contentLimit ≤ d.floor ∧ d.floor ≤ contentLimit ∧ 0 ≤ d.spread ∧ d.spread ≤ contentLimit
  | .reputationBias _ => True

/-- A draft that is read from a content file names no axis twice. -/
theorem Draft.namesDistinct_of_ofRon? {k : Kind} {v : Ron.Value} {d : Draft}
    (h : Draft.ofRon? k v = some d) : d.NamesDistinct := by
  unfold Draft.ofRon? at h
  cases k <;> simp only [Option.map_eq_map, Option.map_eq_some_iff] at h <;>
    obtain ⟨d, h, rfl⟩ := h
  -- the fields are read in order, those that are not modifiers are passed over
  case quirk =>
    simp only [quirkOfRon?, Option.bind_eq_bind, Option.bind_eq_some_iff] at h
    obtain ⟨fs, -, _, -, _, -, _, -, _, -, m, hm, _, -, _, -, _, -, _, -, h⟩ := h
    cases h
    exact Ron.nodup_keys_of_optional hm
  case failing =>
    simp only [failingOfRon?, Option.bind_eq_bind, Option.bind_eq_some_iff] at h
    obtain ⟨fs, -, _, -, _, -, _, -, _, -, m, hm, _, -, _, -, _, -, _, -, h⟩ := h
    cases h
    exact Ron.nodup_keys_of_optional hm
  case uselessBit =>
    simp only [uselessBitOfRon?, Option.bind_eq_bind, Option.bind_eq_some_iff] at h
    obtain ⟨fs, -, _, -, _, -, m, hm, n, hn, _, -, _, -, h⟩ := h
    cases h
    exact ⟨Ron.nodup_keys_of_optional hm, Ron.nodup_keys_of_optional hn⟩
  case itemQuirk =>
    simp only [itemQuirkOfRon?, Option.bind_eq_bind, Option.bind_eq_some_iff] at h
    obtain ⟨fs, -, _, -, m, hm, _, -, _, -, _, -, h⟩ := h
    cases h
    exact Ron.nodup_keys_of_optional hm
  case itemType => trivial
  case environmentalQuirk =>
    simp only [environmentalQuirkOfRon?, Option.bind_eq_bind, Option.bind_eq_some_iff] at h
    obtain ⟨fs, -, _, -, _, -, m, hm, _, -, _, -, _, -, h⟩ := h
    cases h
    exact Ron.nodup_keys_of_optional hm
  case action =>
    simp only [actionOfRon?, Option.bind_eq_bind, Option.bind_eq_some_iff] at h
    obtain ⟨fs, -, _, -, _, -, _, -, _, -, _, -, _, -, m, hm, _, -, h⟩ := h
    cases h
    exact Ron.nodup_keys_of_optional hm
  case reputationBias => trivial

/-- What passes the check of its kind is within its limits. -/
theorem inLimits_of_check {d : Draft} {x : Definition} (hn : d.NamesDistinct)
    (h : d.check = .ok x) : x.InLimits := by
  cases d <;> rw [Draft.check] at h
  case quirk d =>
    obtain ⟨q, hq, rfl⟩ := map_eq_ok_iff.1 h
    obtain ⟨-, ts, -, m, hm, rfl⟩ := QuirkDraft.check_eq_ok_iff.1 hq
    exact within_of_checkModifiers hm hn
  case failing d =>
    obtain ⟨f, hf, rfl⟩ := map_eq_ok_iff.1 h
    obtain ⟨⟨h0, hl⟩, hb, as, -, -, ts, -, m, hm, rfl⟩ := FailingDraft.check_eq_ok_iff.1 hf
    exact ⟨within_of_checkModifiers hm hn, h0, hl, (checkBounded_eq_ok_iff.1 hb).2⟩
  case uselessBit d =>
    obtain ⟨b, hb, rfl⟩ := map_eq_ok_iff.1 h
    obtain ⟨-, ts, -, m, hm, n, hp, rfl⟩ := UselessBitDraft.check_eq_ok_iff.1 hb
    exact ⟨within_of_checkModifiers hm hn.1, within_of_checkModifiers hp hn.2⟩
  case itemQuirk d =>
    obtain ⟨q, hq, rfl⟩ := map_eq_ok_iff.1 h
    obtain ⟨m, hm, rfl⟩ := ItemQuirkDraft.check_eq_ok_iff.1 hq
    exact within_of_checkModifiers hm hn
  case itemType d =>
    cases h
    trivial
  case environmentalQuirk d =>
    obtain ⟨q, hq, rfl⟩ := map_eq_ok_iff.1 h
    obtain ⟨m, hm, rfl⟩ := EnvironmentalQuirkDraft.check_eq_ok_iff.1 hq
    exact within_of_checkModifiers hm hn
  case action d =>
    obtain ⟨x, hx, rfl⟩ := map_eq_ok_iff.1 h
    obtain ⟨⟨ht, hs⟩, hbt, hbf, hbs, m, hm, rfl⟩ := ActionDraft.check_eq_ok_iff.1 hx
    have hf := checkBounded_eq_ok_iff.1 hbf
    exact ⟨within_of_checkModifiers hm hn, ht, (checkBounded_eq_ok_iff.1 hbt).2, hf.1, hf.2, hs,
      (checkBounded_eq_ok_iff.1 hbs).2⟩
  case reputationBias d =>
    obtain ⟨-, -, rfl⟩ := map_eq_ok_iff.1 h
    trivial

theorem inLimits_of_definition {e : Entry} {d : Definition} (h : e.definition = .ok d) :
    d.InLimits := by
  unfold Entry.definition at h
  split at h
  · rename_i draft hd
    exact inLimits_of_check (Draft.namesDistinct_of_ofRon? hd) h
  · cases h

/-- Every definition of the library is within its limits. -/
def Library.InLimits (l : Library) : Prop := ∀ d, l.Has d → d.InLimits

/-- **Every definition that is loaded from texts is within its limits.** -/
theorem Library.ComesFrom.inLimits {library : Library} {strict : Bool} {texts : List String}
    (h : library.ComesFrom (Loader.run strict (texts.map .text))) : library.InLimits := by
  -- leaving item types out adds no definition, and an entry adds only what it has checked
  refine h.induction (fun l id hl d hd => hl d (Library.has_of_withoutItemType hd)) ?_
  refine Loader.run_texts_induction (fun d hd => absurd hd (Library.not_has_empty d)) ?_
    strict texts
  intro l l' e d hl he ha x hx
  obtain ⟨-, rfl⟩ := Library.add_eq_ok.1 ha
  rcases Library.has_append.1 hx with hx | rfl
  · exact hl x hx
  · exact inLimits_of_definition he

end Reckoning
