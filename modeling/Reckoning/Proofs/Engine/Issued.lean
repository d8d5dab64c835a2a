import Reckoning.Proofs.Engine.Run

/-!
# What was issued stays

A character that is registered stays registered, and whatever the engine does, only its
reputation changes and it may be retired.

* `Character.SameIssue` compares characters apart from these two; `Character.Follows` also says
  that nobody who was retired comes back.
* `Registry.Step` says all that a command can do to the registry, `Engine.step_after` that every
  command is such a step.
* `Registry.Step.character?_rel`: a step registers a character that is offered and new, and keeps
  the others.
* `Engine.keeps_run`: every run keeps the characters of its engine.
-/

namespace Reckoning

/-! ### Characters that change -/

/-- The same character, apart from its reputation and whether it is active. -/
def Character.SameIssue (c d : Character) : Prop :=
  c.toSheet = { d.toSheet with reputation := c.reputation }

namespace Character.SameIssue

theorem refl (c : Character) : c.SameIssue c := rfl

theorem trans {b c d : Character} (hbc : b.SameIssue c) (hcd : c.SameIssue d) : b.SameIssue d := by
  unfold SameIssue at *
  rw [hbc, hcd]

/-- Whatever does not look at the reputation is the same. -/
theorem field {α : Type} {c d : Character} (h : c.SameIssue d) (f : Sheet → α)
    (hf : ∀ (s : Sheet) r, f { s with reputation := r } = f s) : f c.toSheet = f d.toSheet := by
  rw [show c.toSheet = { d.toSheet with reputation := c.reputation } from h, hf]

end Character.SameIssue

/-- The same character, perhaps later: it was not brought back after it was retired. -/
structure Character.Follows (c d : Character) : Prop where
  sameIssue : c.SameIssue d
  active : c.active = true → d.active = true

namespace Character.Follows

theorem refl (c : Character) : c.Follows c := ⟨.refl c, id⟩

theorem trans {b c d : Character} (hbc : b.Follows c) (hcd : c.Follows d) : b.Follows d :=
  ⟨hbc.sameIssue.trans hcd.sameIssue, fun h => hcd.active (hbc.active h)⟩

theorem withReputation (c : Character) (r : Reputation) : (c.withReputation r).Follows c :=
  ⟨rfl, id⟩

theorem deactivate (c : Character) : c.deactivate.Follows c := ⟨rfl, nofun⟩

theorem id_eq {c d : Character} (h : c.Follows d) : c.id = d.id :=
  h.sameIssue.field Sheet.id fun _ _ => rfl

theorem rel_refl : ∀ found : Option Character, Option.Rel Character.Follows found found
  | none => .none
  | some c => .some (.refl c)

end Character.Follows

/-! ### Steps of the registry -/

/-- The character that a command offers for registration, with what the library has. -/
def Command.offered? (library : Library) : Command → Option Character
  | .issue account sex seed now => (issueCharacter library account sex seed now).toOption
  | .register c => some c
  | _ => none

/-- The command tries to forge an item. -/
def Command.forges : Command → Bool
  | .createItem .. => true
  | _ => false

/-- What a command can do to a registry, with the character that it offers and the item that it
forges. -/
inductive Registry.Step (r : Registry) (k : Command) :
    Option Character → Option Item → Registry → Prop
  /-- A request that is refused or comes to no result, or that is no concern of the registry. -/
  | unchanged : r.Step k none none r
  /-- The id of the character is taken. -/
  | known {c d : Character} : r.character? c.id = some d → r.Step k (some c) none r
  | registered {c : Character} : r.character? c.id = none →
      r.Step k (some c) none { r with characters := r.characters ++ [c] }
  | changed {f : Character → Character} : (∀ c, (f c).Follows c) →
      r.Step k none none { r with characters := r.characters.map f }
  /-- An item that cannot be forged still uses its number up. -/
  | spent : k.forges = true → r.lastItem ≠ mostItem →
      r.Step k none none { r with lastItem := r.lastItem + 1 }
  | forged {item : Item} {maker : Character} : k.forges = true →
      r.character? item.creator = some maker →
      r.lastItem ≠ mostItem → item.id = ⟨r.lastItem + 1⟩ →
      item.makerProfile = .capture maker item.createdAt →
      r.Step k none (some item)
        ({ r with lastItem := r.lastItem + 1 }.insertItem item item.creator)
  | handed {id : ItemId} {h : Holding} {recipient : CharacterId} {c : Character} :
      r.character? recipient = some c → r.holding? id = some h →
      r.Step k none none
        { r with holdings := put (·.item.id) { h with holder := recipient } r.holdings }
  | described {room : Room} : r.Step k none none (r.insertRoom room)

/-- What is known of an item from its forging. -/
theorem forgeItem_eq_ok {library : Library} {id : ItemId} {itemType : DefId} {maker : Character}
    {custom : List DefId} {now : Timestamp} {item : Item}
    (h : forgeItem library id itemType maker custom now = .ok item) :
    item.id = id ∧ item.creator = maker.id ∧
      item.makerProfile = .capture maker item.createdAt := by
  unfold forgeItem at h
  split at h
  · cases h
  · cases h
    exact ⟨rfl, rfl, rfl⟩

namespace Registry.Step

variable {r r' : Registry} {k : Command} {offered : Option Character} {forged : Option Item}

theorem insertCharacter (r : Registry) (k : Command) (c : Character) :
    r.Step k (some c) none (r.insertCharacter c).2 := by
  unfold Registry.insertCharacter
  cases hc : r.character? c.id with
  | none => exact .registered hc
  | some d => exact .known hc

theorem changeCharacter {id : CharacterId} {f : Character → Character} (hf : ∀ c, (f c).Follows c)
    (h : r.changeCharacter id f = .ok r') : r.Step k none none r' := by
  unfold Registry.changeCharacter at h
  split at h
  · cases h
  · cases h
    refine .changed fun c => ?_
    split_ifs
    · exact hf c
    · exact .refl c

theorem transfer {id : ItemId} {recipient : CharacterId} (h : r.transfer id recipient = .ok r') :
    r.Step k none none r' := by
  unfold Registry.transfer at h
  split at h
  · cases h
  · cases h
  · rename_i c held hc hh
    cases h
    exact .handed hc hh

/-- A step registers the character that it offers unless the id is taken, and changes only the
reputation and the active flag of the others. -/
theorem character?_rel (h : r.Step k offered forged r') (id : CharacterId) :
    Option.Rel Character.Follows (r'.character? id)
      ((r.character? id).or (offered.toList.find? (·.id == id))) := by
  have same : Option.Rel Character.Follows (r.character? id) ((r.character? id).or none) := by
    rw [Option.or_none]
    exact Character.Follows.rel_refl _
  cases h with
  | known hd =>
    rename_i c d
    by_cases hc : c.id = id
    · rw [← hc, hd, Option.some_or]
      exact .some (.refl d)
    · simpa [hc] using same
  | registered hc =>
    rename_i c
    have hr : ({ r with characters := r.characters ++ [c] } : Registry).character? id =
        (r.character? id).or ([c].find? (·.id == id)) := List.find?_append
    rw [hr]
    exact Character.Follows.rel_refl _
  | changed hf =>
    -- ids stay, so the search stops at the same place
    simp only [Option.toList_none, List.find?_nil, Option.or_none, character?, List.find?_map,
      Function.comp_def, (hf _).id_eq]
    cases r.characters.find? (·.id == id) with
    | none => exact .none
    | some c => exact .some (hf c)
  | _ => exact same

/-- A step keeps the characters that are there. -/
theorem exists_follows (h : r.Step k offered forged r') {id : CharacterId} {c : Character}
    (hc : r.character? id = some c) : ∃ c', r'.character? id = some c' ∧ c'.Follows c := by
  have hrel := h.character?_rel id
  rw [hc, Option.some_or] at hrel
  cases hc' : r'.character? id with
  | none => rw [hc'] at hrel; cases hrel
  | some c' =>
    rw [hc'] at hrel
    cases hrel with
    | some hf => exact ⟨c', rfl, hf⟩

end Registry.Step

namespace Engine

variable {σ : Type} [Store σ] {e : Engine σ}

/-- The item that a command forges. -/
def forged? (e : Engine σ) : Command → Option Item
  | .createItem itemType creator custom now =>
    (createItem itemType creator custom now e).bind (·.1.toOption)
  | _ => none

omit [Store σ] in
theorem step_changeRegistry {f : Registry → EngineResult Registry} {k : Command}
    (hf : ∀ r', f e.registry = .ok r' → e.registry.Step k none none r') :
    e.registry.Step k none none (changeRegistry f e).2.registry := by
  unfold changeRegistry
  cases h : f e.registry with
  | ok r' => exact hf r' h
  | error error => exact .unchanged

/-- **Every command is a step of the registry.** -/
theorem step_after (k : Command) :
    e.registry.Step k (k.offered? e.library) (e.forged? k) (e.after k).registry := by
  cases k with
  | issue account sex seed now =>
    change e.registry.Step _ (issueCharacter e.library account sex seed now).toOption none
      (issue account sex seed now e).2.registry
    unfold issue
    cases issueCharacter e.library account sex seed now with
    | error error => exact .unchanged
    | ok c => exact .insertCharacter _ _ c
  | register c => exact .insertCharacter _ _ c
  | deactivate id =>
    exact step_changeRegistry fun r' h => .changeCharacter Character.Follows.deactivate h
  | updateReputation id reputation =>
    exact step_changeRegistry fun r' h => .changeCharacter (fun c => .withReputation c reputation) h
  | createItem itemType creator custom now =>
    change e.registry.Step _ none ((createItem itemType creator custom now e).bind (·.1.toOption))
      (((createItem itemType creator custom now e).map (·.2)).getD e).registry
    unfold createItem
    cases hm : e.registry.character? creator with
    | none => exact .unchanged
    | some maker =>
      unfold Registry.nextItem?
      by_cases hlast : e.registry.lastItem = Registry.mostItem
      · rw [if_pos hlast]
        exact .unchanged
      · rw [if_neg hlast]
        simp only [Option.map_some, Option.bind_some, Option.getD_some]
        cases hi : forgeItem e.library ⟨e.registry.lastItem + 1⟩ itemType maker custom now with
        | error error => exact .spent rfl hlast
        | ok item =>
          obtain ⟨hid, hcreator, hprofile⟩ := forgeItem_eq_ok hi
          have hc : item.creator = creator := hcreator.trans (Registry.id_of_character? hm)
          rw [← hc] at hm ⊢
          exact .forged rfl hm hlast hid hprofile
  | transferItem item recipient => exact step_changeRegistry fun r' h => .transfer h
  | registerRoom room => exact .described
  | resolve r now =>
    obtain ⟨ledger, locks, hr⟩ := e.resolve_snd r now
    change e.registry.Step _ none none (resolve r now e).2.registry
    rw [hr]
    exact .unchanged

/-- A run keeps the characters of its engine, and brings nobody back. -/
theorem exists_follows_run (ks : List Command) {id : CharacterId} {c : Character}
    (hc : e.registry.character? id = some c) :
    ∃ c', (e.run ks).registry.character? id = some c' ∧ c'.Follows c := by
  refine run_induction (P := fun e' => ∃ c', e'.registry.character? id = some c' ∧ c'.Follows c)
    ?_ ⟨c, hc, .refl c⟩ ks
  rintro e' k ⟨c', hc', hf'⟩
  obtain ⟨c'', hc'', hf''⟩ := (step_after k).exists_follows hc'
  exact ⟨c'', hc'', hf''.trans hf'⟩

end Engine

/-- The characters of the first registry are in the second one, as they were issued. -/
def Registry.Keeps (r r' : Registry) : Prop :=
  ∀ id c, r.character? id = some c → ∃ c', r'.character? id = some c' ∧ c'.SameIssue c

/-- **Every run keeps the characters of its engine as they were issued.** -/
theorem Engine.keeps_run {σ : Type} [Store σ] {e : Engine σ} (ks : List Command) :
    e.registry.Keeps (e.run ks).registry := by
  intro id c hc
  obtain ⟨c', hc', hf⟩ := exists_follows_run ks hc
  exact ⟨c', hc', hf.sameIssue⟩

end Reckoning
