import Mathlib.Data.List.Pairwise
import Reckoning.Proofs.Engine.ItemNumbers
import Reckoning.Proofs.Engine.Replay
import Reckoning.Proofs.Lookup

/-!
# What a run may do to the registry

Everything that a command can do to the registry is a step of it, so what a step keeps, a run
keeps.

* `Engine.character?_run`: of the characters that were offered under an id, the first is the one
  that is registered.
* `Engine.item?_run`: of the items that were forged under a number, the latest is the one that is
  there.  `Engine.item?_of_mem_forgings`: that is every item, for no two bear the same number.
* `Holding.Sound`: maker and holder of an item are registered, and its profile is its maker's.
* `CountsUp`: items bear increasing numbers, and there are no more numbers than attempts.  Once the
  numbers are used up, attempts come to no result.
* `Engine.SteadyRegistry` collects what holds of the runs of an engine,
  `Engine.steadyRegistry_start` says that it holds of every engine that has just started.
-/

namespace Reckoning

/-- Who follows a character of the same issue as another one, or the same newcomer, is of the issue
of that other one. -/
theorem Character.rel_or_of_follows {before after first offered : Option Character}
    (hs : Option.Rel Character.SameIssue before first)
    (hf : Option.Rel Character.Follows after (before.or offered)) :
    Option.Rel Character.SameIssue after (first.or offered) := by
  cases hs with
  | none =>
    -- the id was free so far
    rw [Option.none_or] at hf ⊢
    cases hf with
    | none => exact .none
    | some h => exact .some h.sameIssue
  | some hs =>
    rw [Option.some_or] at hf ⊢
    cases hf with
    | some h => exact .some (h.sameIssue.trans hs)

/-! ### What a step does to items -/

/-- Maker and holder of an item are registered, and the item describes its maker. -/
structure Holding.Sound (r : Registry) (h : Holding) : Prop where
  made : ∃ maker, r.character? h.item.creator = some maker ∧
    h.item.makerProfile =
      { creator := h.item.creator, attributes := maker.attributes, quirks := maker.quirks,
        capturedAt := h.item.createdAt }
  held : ∃ holder, r.character? h.holder = some holder

/-- The items bear increasing numbers up to the last one, which is no more than the number of
attempts. -/
structure CountsUp (attempts : Nat) (items : List Item) (last : UInt64) : Prop where
  last_le : last.toNat ≤ attempts
  increasing : (items.map (·.id.raw)).Pairwise (· < ·)
  le_last : ∀ item ∈ items, item.id.raw ≤ last

namespace Registry

theorem find?_put {α κ : Type} [DecidableEq κ] (key : α → κ) (x : α) (k : κ) (ys : List α) :
    (put key x ys).find? (key · == k) =
      ([x].find? (key · == k)).or (ys.find? (key · == k)) := by
  induction ys with
  | nil => simp [put]
  | cons y ys ih =>
    unfold put
    by_cases hy : key y = key x
    · rw [if_pos hy]
      by_cases hx : key x = k <;> simp [hy, hx]
    · rw [if_neg hy]
      by_cases hk : key y = k
      · have hx : key x ≠ k := fun hx => hy (hk.trans hx.symm)
        simp [hk, hx]
      · simp [hk, ih]

theorem exists_insertCharacter (r : Registry) (c : Character) :
    ∃ d, (r.insertCharacter c).2.character? c.id = some d := by
  unfold insertCharacter
  cases hc : r.character? c.id with
  | some d => exact ⟨d, hc⟩
  | none =>
    refine ⟨c, ?_⟩
    unfold character? at hc ⊢
    simp [List.find?_append, hc]

theorem id_of_holding? {r : Registry} {id : ItemId} {h : Holding} (hh : r.holding? id = some h) :
    h.item.id = id :=
  id_of_find? id h hh

namespace Step

variable {r r' : Registry} {k : Command} {offered : Option Character} {forged : Option Item}

/-- A step adds the item that it forges and changes none of the others. -/
theorem item?_eq (h : r.Step k offered forged r') (id : ItemId) :
    r'.item? id = (forged.toList.find? (·.id == id)).or (r.item? id) := by
  cases h with
  | forged hk hm hlast hid hp =>
    rename_i item maker
    unfold item? holding? insertItem
    rw [find?_put, Option.map_or]
    by_cases hid : item.id = id <;> simp [hid]
  | handed hc hh =>
    rename_i given held recipient c
    have hid := id_of_holding? hh
    unfold item? holding? at *
    rw [find?_put]
    by_cases hg : held.item.id = id
    · -- the holder is another one, the item is not
      rw [← hid, hg] at hh
      simp [hg, hh]
    · simp [hg]
  | _ => rfl

/-- What is known of items stays known, with characters that grow older. -/
theorem sound_of_sound (h : r.Step k offered forged r') {x : Holding} (hx : x.Sound r) :
    x.Sound r' := by
  obtain ⟨⟨maker, hm, hp⟩, holder, hh⟩ := hx
  obtain ⟨maker', hm', hf⟩ := h.exists_follows hm
  obtain ⟨holder', hh', -⟩ := h.exists_follows hh
  have hattributes : maker'.attributes = maker.attributes :=
    hf.sameIssue.field Sheet.attributes fun _ _ => rfl
  have hquirks : maker'.quirks = maker.quirks := hf.sameIssue.field Sheet.quirks fun _ _ => rfl
  refine ⟨⟨maker', hm', ?_⟩, holder', hh'⟩
  rw [hp, hattributes, hquirks]

/-- An item is forged by somebody who is registered and goes to somebody who is. -/
theorem sound_holding (h : r.Step k offered forged r')
    (hr : ∀ id x, r.holding? id = some x → x.Sound r) {id : ItemId} {x : Holding}
    (hx : r'.holding? id = some x) : x.Sound r' := by
  refine h.sound_of_sound ?_
  cases h with
  | forged _ hm _ _ hp =>
    unfold holding? insertItem at hx
    rw [find?_put, Option.or_eq_some_iff] at hx
    rcases hx with hx | ⟨-, hx⟩
    · cases List.mem_singleton.1 (List.mem_of_find?_eq_some hx)
      rw [MakerProfile.capture, id_of_character? hm] at hp
      exact ⟨⟨_, hm, hp⟩, _, hm⟩
    · exact hr id x hx
  | handed hc hh =>
    unfold holding? at hx
    rw [find?_put, Option.or_eq_some_iff] at hx
    rcases hx with hx | ⟨-, hx⟩
    · cases List.mem_singleton.1 (List.mem_of_find?_eq_some hx)
      exact ⟨(hr _ _ hh).made, _, hc⟩
    · exact hr id x hx
  | _ => exact hr id x hx

/-- An attempt to forge an item takes the next number, if there is one. -/
theorem lastItem_cases (h : r.Step k offered forged r') :
    r'.lastItem = r.lastItem ∧ forged = none ∨
      k.forges = true ∧ r.lastItem ≠ mostItem ∧ r'.lastItem = r.lastItem + 1 ∧
        ∀ item ∈ forged, item.id = ⟨r.lastItem + 1⟩ := by
  cases h with
  | spent hk hlast => exact .inr ⟨hk, hlast, rfl, nofun⟩
  | forged hk _ hlast hid _ =>
    refine .inr ⟨hk, hlast, ?_, ?_⟩
    · unfold insertItem
      rw [hid]
      exact ite_self _
    · rintro item ⟨⟩
      exact hid
  | _ => exact .inl ⟨rfl, rfl⟩

theorem countsUp (h : r.Step k offered forged r') {attempts : Nat} {items : List Item}
    (hc : CountsUp attempts items r.lastItem) :
    CountsUp (attempts + [k].countP Command.forges) (items ++ forged.toList) r'.lastItem := by
  rcases h.lastItem_cases with ⟨hl, rfl⟩ | ⟨hk, hlast, hl, hid⟩
  · rw [Option.toList_none, List.append_nil, hl]
    exact ⟨Nat.le_add_right_of_le hc.last_le, hc.increasing, hc.le_last⟩
  · have hnat : r'.lastItem.toNat = r.lastItem.toNat + 1 := by rw [hl, toNat_lastItem_add_one hlast]
    have hnew : ∀ item ∈ forged.toList, item.id.raw = r'.lastItem := fun item hi => by
      rw [hid item (Option.mem_toList.1 hi), hl]
    have hlt : ∀ item ∈ items, item.id.raw < r'.lastItem := fun item hi => by
      rw [UInt64.lt_iff_toNat_lt, hnat]
      exact Nat.lt_succ_of_le (UInt64.le_iff_toNat_le.1 (hc.le_last item hi))
    refine ⟨?_, ?_, ?_⟩
    · rw [hnat]
      simpa [hk] using hc.last_le
    · rw [List.map_append, List.pairwise_append]
      refine ⟨hc.increasing, ?_, ?_⟩
      · cases forged with
        | none => exact .nil
        | some item => exact List.pairwise_singleton _ _
      · simp only [List.mem_map]
        rintro _ ⟨item, hi, rfl⟩ _ ⟨new, hn, rfl⟩
        rw [hnew new hn]
        exact hlt item hi
    · intro item hi
      rcases List.mem_append.1 hi with hi | hi
      · exact UInt64.le_of_lt (hlt item hi)
      · exact UInt64.le_of_eq (hnew item hi)

end Step

end Registry

theorem OrderLocks.mem_owners_forCharacter {l : OrderLocks} {c id : CharacterId}
    (h : id ∈ (l.forCharacter c).2.owners) : id ∈ l.owners ∨ id = c := by
  unfold forCharacter at h
  split at h
  · exact .inl h
  · simpa using h

/-! ### Runs -/

namespace Engine

section

variable {σ : Type} [Store σ] {e : Engine σ}

/-- The characters that commands offer for registration, in order. -/
def offers (e : Engine σ) (ks : List Command) : List Character :=
  ks.filterMap (·.offered? e.library)

/-- The items that commands forge, in order. -/
def forgings (e : Engine σ) : List Command → List Item
  | [] => []
  | k :: ks => (e.forged? k).toList ++ forgings (e.after k) ks

theorem forgings_append (ks ls : List Command) :
    e.forgings (ks ++ ls) = e.forgings ks ++ (e.run ks).forgings ls := by
  induction ks generalizing e with
  | nil => rfl
  | cons k ks ih =>
    rw [List.cons_append, forgings, forgings, ih, List.append_assoc]
    rfl

theorem forgings_concat (ks : List Command) (k : Command) :
    e.forgings (ks ++ [k]) = e.forgings ks ++ ((e.run ks).forged? k).toList := by
  rw [forgings_append, forgings, forgings, List.append_nil]

theorem step_run (ks : List Command) (k : Command) :
    (e.run ks).registry.Step k (k.offered? e.library) ((e.run ks).forged? k)
      (e.run (ks ++ [k])).registry := by
  have h := step_after (e := e.run ks) k
  rw [library_run, ← run_concat] at h
  exact h

/-- **The first character that was offered under an id is the one that is registered.** -/
theorem character?_run (h : e.registry = ∅) (ks : List Command) (id : CharacterId) :
    Option.Rel Character.SameIssue ((e.run ks).registry.character? id)
      ((e.offers ks).find? (·.id == id)) := by
  induction ks using List.reverseRecOn with
  | nil =>
    change Option.Rel _ (e.registry.character? id) none
    rw [h]
    exact .none
  | append_singleton ks k ih =>
    have hoffers : e.offers (ks ++ [k]) = e.offers ks ++ (k.offered? e.library).toList := by
      unfold offers
      rw [List.filterMap_append]
      cases hk : k.offered? e.library <;> simp [hk]
    rw [hoffers, List.find?_append]
    exact Character.rel_or_of_follows ih ((step_run ks k).character?_rel id)

/-- The latest item that was forged under a number is the one that is there. -/
theorem item?_run (h : e.registry = ∅) (ks : List Command) (id : ItemId) :
    (e.run ks).registry.item? id = (e.forgings ks).reverse.find? (·.id == id) := by
  induction ks using List.reverseRecOn with
  | nil =>
    change e.registry.item? id = none
    rw [h]
    rfl
  | append_singleton ks k ih =>
    rw [(step_run ks k).item?_eq, ih, forgings_concat, List.reverse_append, List.find?_append]
    cases (e.run ks).forged? k <;> rfl

/-- Whatever the run, makers and holders of items are registered. -/
theorem sound_run (h : e.registry = ∅) (ks : List Command) {id : ItemId} {x : Holding}
    (hx : (e.run ks).registry.holding? id = some x) : x.Sound (e.run ks).registry := by
  induction ks using List.reverseRecOn generalizing id x with
  | nil =>
    change e.registry.holding? id = some x at hx
    rw [h] at hx
    cases hx
  | append_singleton ks k ih => exact (step_run ks k).sound_holding (fun _ _ => ih) hx

theorem countsUp_run (h : e.registry = ∅) (ks : List Command) :
    CountsUp (ks.countP Command.forges) (e.forgings ks) (e.run ks).registry.lastItem := by
  induction ks using List.reverseRecOn with
  | nil =>
    change CountsUp 0 [] e.registry.lastItem
    rw [h]
    exact ⟨Nat.le_refl 0, .nil, nofun⟩
  | append_singleton ks k ih =>
    rw [List.countP_append, forgings_concat]
    exact (step_run ks k).countsUp ih

/-- Every item that was forged is there, for no two bear the same number. -/
theorem item?_of_mem_forgings (h : e.registry = ∅) {ks : List Command} {item : Item}
    (hi : item ∈ e.forgings ks) : (e.run ks).registry.item? item.id = some item := by
  have hraw : ((e.forgings ks).map (·.id.raw)).Nodup :=
    (countsUp_run h ks).increasing.imp UInt64.ne_of_lt
  have hids : ((e.forgings ks).reverse.map (·.id)).Nodup := by
    rw [List.map_reverse, List.nodup_reverse]
    refine List.Nodup.of_map ItemId.raw ?_
    rw [List.map_map]
    exact hraw
  rw [item?_run h]
  exact (find?_eq_some_of_nodup hids).2 ⟨List.mem_reverse.2 hi, rfl⟩

/-- An attempt to forge an item comes to a result while there are numbers. -/
theorem exists_createItem (h : e.registry = ∅) {ks : List Command}
    (hleft : ks.countP Command.forges < 2 ^ 64 - 1) (itemType : DefId) (creator : CharacterId)
    (custom : List DefId) (now : Timestamp) :
    ∃ answer, createItem itemType creator custom now (e.run ks) = some answer := by
  have hlast : (e.run ks).registry.lastItem ≠ Registry.mostItem := by
    intro heq
    have hle := (countsUp_run h ks).last_le
    rw [heq] at hle
    exact Nat.not_lt_of_le hle hleft
  unfold createItem
  cases (e.run ks).registry.character? creator with
  | none => exact ⟨_, rfl⟩
  | some maker =>
    have hnext := Registry.nextItem?_eq_some_iff.2 ⟨hlast, rfl, rfl⟩
    rw [hnext]
    exact ⟨_, rfl⟩

/-! ### Locks -/

theorem locks_of_known {r : ActionRequest} {now : Timestamp} {c : Character}
    (hc : e.registry.character? r.character = some c) :
    (resolve r now e).2.locks = (e.locks.forCharacter r.character).2 := by
  unfold resolve
  rw [hc]
  simp only
  split
  · rfl
  · split <;> rfl

/-- Only a character that is registered is given a lock. -/
theorem owner_cases (k : Command) {id : CharacterId} (h : id ∈ (e.after k).locks.owners) :
    id ∈ e.locks.owners ∨ ∃ c, e.registry.character? id = some c := by
  rcases e.after_cases k with ⟨registry, hk⟩ | ⟨r, now, rfl⟩
  · rw [hk] at h
    exact .inl h
  · change id ∈ (resolve r now e).2.locks.owners at h
    cases hc : e.registry.character? r.character with
    | none =>
      unfold resolve at h
      rw [hc] at h
      exact .inl h
    | some c =>
      rw [locks_of_known hc] at h
      rcases OrderLocks.mem_owners_forCharacter h with h | rfl
      · exact .inl h
      · exact .inr ⟨c, hc⟩

theorem exists_owner_run (h : e.locks = ∅) (ks : List Command) {id : CharacterId}
    (hid : id ∈ (e.run ks).locks.owners) : ∃ c, (e.run ks).registry.character? id = some c := by
  induction ks using List.reverseRecOn with
  | nil =>
    change id ∈ e.locks.owners at hid
    rw [h] at hid
    cases hid
  | append_singleton ks k ih =>
    rw [run_concat] at hid
    -- who had a lock, and who is given one, is registered before the command
    obtain ⟨c, hc⟩ : ∃ c, (e.run ks).registry.character? id = some c := by
      rcases owner_cases k hid with h | h
      · exact ih h
      · exact h
    obtain ⟨c', hc', -⟩ := (step_run ks k).exists_follows hc
    exact ⟨c', hc'⟩

/-! ### All that holds of runs -/

theorem after_of_known {k : Command} {c d : Character} (hk : k.offered? e.library = some c)
    (hd : e.registry.character? c.id = some d) : e.after k = e := by
  have hinsert : e.registry.insertCharacter c = (false, e.registry) := by
    unfold Registry.insertCharacter
    rw [hd]
    rfl
  cases k with
  | issue account sex seed now =>
    change (issueCharacter e.library account sex seed now).toOption = some c at hk
    change (issue account sex seed now e).2 = e
    unfold issue
    cases hi : issueCharacter e.library account sex seed now with
    | error error => rfl
    | ok c' =>
      rw [hi] at hk
      cases hk
      simp only [hinsert]
  | register c' =>
    cases hk
    change register c e = e
    unfold register
    rw [hinsert]
  | _ => cases hk

omit [Store σ] in
/-- What is issued is handed back as it is registered then. -/
theorem exists_issue_eq {account sex seed : String} {now : Timestamp} {c : Character}
    (hc : issueCharacter e.library account sex seed now = .ok c) :
    ∃ d, (issue account sex seed now e).1 = .ok d ∧
      (issue account sex seed now e).2.registry.character? c.id = some d := by
  obtain ⟨d, hd⟩ := e.registry.exists_insertCharacter c
  unfold issue
  rw [hc]
  refine ⟨d, ?_, hd⟩
  simp only [hd, Option.getD_some]

/-- What the runs of an engine may do to its registry. -/
structure SteadyRegistry (e : Engine σ) : Prop where
  /-- The first character that is offered under an id is the one that is registered under it, apart
  from its reputation and whether it is active. -/
  first : ∀ ks id, Option.Rel Character.SameIssue ((e.run ks).registry.character? id)
    ((e.offers ks).find? (·.id == id))
  /-- A character is registered under its own id. -/
  own : ∀ ks id c, (e.run ks).registry.character? id = some c → c.id = id
  /-- Nobody is removed, and nobody who was retired comes back. -/
  kept : ∀ ks ls id c, (e.run ks).registry.character? id = some c →
    ∃ c', (e.run (ks ++ ls)).registry.character? id = some c' ∧ c'.SameIssue c ∧
      (c.active = false → c'.active = false)
  /-- A character that is offered under an id that is taken changes nothing at all. -/
  again : ∀ ks k c d, k.offered? e.library = some c →
    (e.run ks).registry.character? c.id = some d → e.run (ks ++ [k]) = e.run ks
  /-- Who is issued is handed back as they are registered from then on. -/
  issued : ∀ ks account sex seed now c, issueCharacter e.library account sex seed now = .ok c →
    ∃ d, (issue account sex seed now (e.run ks)).1 = .ok d ∧
      (e.run (ks ++ [.issue account sex seed now])).registry.character? c.id = some d
  /-- The latest item that was forged under a number is the one that is there. -/
  items : ∀ ks id, (e.run ks).registry.item? id = (e.forgings ks).reverse.find? (·.id == id)
  /-- The item that is handed back is there from then on. -/
  forged : ∀ ks itemType creator custom now item e',
    createItem itemType creator custom now (e.run ks) = some (.ok item, e') →
      (e.run (ks ++ [.createItem itemType creator custom now])).registry.item? item.id = some item
  /-- An item never changes. -/
  unchanged : ∀ ks ls id item, (e.run ks).registry.item? id = some item →
    (e.run (ks ++ ls)).registry.item? id = some item
  /-- No number is larger than the attempts to forge items are many. -/
  counted : ∀ ks, CountsUp (ks.countP Command.forges) (e.forgings ks) (e.run ks).registry.lastItem
  /-- Items bear increasing numbers. -/
  increasing : ∀ ks, ((e.forgings ks).map (·.id.raw)).Pairwise (· < ·)
  /-- An attempt to forge an item comes to a result while there were fewer attempts than numbers. -/
  answered : ∀ ks itemType creator custom now, ks.countP Command.forges < 2 ^ 64 - 1 →
    ∃ answer, createItem itemType creator custom now (e.run ks) = some answer
  /-- The maker of an item is registered, and the item describes them. -/
  made : ∀ ks id item, (e.run ks).registry.item? id = some item →
    ∃ maker, (e.run ks).registry.character? item.creator = some maker ∧
      item.makerProfile =
        { creator := item.creator, attributes := maker.attributes, quirks := maker.quirks,
          capturedAt := item.createdAt }
  /-- The holder of an item is registered. -/
  held : ∀ ks id holder, (e.run ks).registry.holder? id = some holder →
    ∃ c, (e.run ks).registry.character? holder = some c
  /-- Who has a lock is registered. -/
  locked : ∀ ks, ∀ id ∈ (e.run ks).locks.owners, ∃ c, (e.run ks).registry.character? id = some c

/-- **Every run of an engine that has just started keeps its registry steady.** -/
theorem steadyRegistry_start (library : Library) (ledger : σ) (config : Config) :
    (start library ledger config).SteadyRegistry where
  first := character?_run rfl
  own ks id c hc := Registry.id_of_character? hc
  kept ks ls id c hc := by
    obtain ⟨c', hc', hf⟩ := exists_follows_run ls hc
    rw [← run_append] at hc'
    refine ⟨c', hc', hf.sameIssue, fun hretired => ?_⟩
    -- whoever is active now was so before
    rw [← Bool.not_eq_true]
    intro hactive
    rw [hf.active hactive] at hretired
    cases hretired
  again ks k c d hk hd := by
    rw [run_concat]
    refine after_of_known ?_ hd
    rw [library_run]
    exact hk
  issued ks account sex seed now c hc := by
    rw [run_concat]
    refine exists_issue_eq ?_
    rw [library_run]
    exact hc
  items := item?_run rfl
  forged ks itemType creator custom now item e' hi := by
    have hf : (start library ledger config |>.run ks).forged?
        (.createItem itemType creator custom now) = some item := by
      change (createItem itemType creator custom now _).bind _ = _
      rw [hi]
      rfl
    rw [(step_run ks _).item?_eq, hf]
    simp
  unchanged ks ls id item hi := by
    rw [item?_run rfl] at hi
    have hm := List.mem_of_find?_eq_some hi
    have hid : item.id = id := by simpa using List.find?_some hi
    rw [← hid]
    refine item?_of_mem_forgings rfl ?_
    rw [forgings_append]
    exact List.mem_append_left _ (List.mem_reverse.1 hm)
  counted := countsUp_run rfl
  increasing ks := (countsUp_run rfl ks).increasing
  answered ks itemType creator custom now hleft :=
    exists_createItem rfl hleft itemType creator custom now
  made ks id item hi := by
    obtain ⟨x, hx, rfl⟩ := Option.map_eq_some_iff.1 hi
    exact (sound_run rfl ks hx).made
  held ks id holder hh := by
    obtain ⟨x, hx, rfl⟩ := Option.map_eq_some_iff.1 hh
    exact (sound_run rfl ks hx).held
  locked ks id hid := exists_owner_run rfl ks hid

end

end Engine

/-! ### A rod whose maker retires -/

namespace Fishing

/-- The rod of the first angler. -/
def rod : Item where
  id := ⟨1⟩
  itemType := "rod"
  creator := ⟨1⟩
  makerProfile := .capture (angler ⟨1⟩) .epoch
  quirks := []
  createdAt := .epoch

theorem rod_unchanged : engine.registry.item? ⟨1⟩ = some rod ∧
    (engine.run afterwards).registry.item? ⟨1⟩ = some rod := by
  have hrod : engine.registry.item? ⟨1⟩ = some rod := by decide +kernel
  refine ⟨hrod, ?_⟩
  have hsteady := Engine.steadyRegistry_start library (MemoryLedger.holding []) default
  have hrun := hsteady.unchanged before afterwards ⟨1⟩ rod hrod
  rw [Engine.run_append] at hrun
  exact hrun

end Fishing

end Reckoning
