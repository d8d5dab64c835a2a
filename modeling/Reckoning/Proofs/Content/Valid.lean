import Mathlib.Data.List.Induction
import Reckoning.Proofs.Content.Limits
import Reckoning.Proofs.Lookup

/-!
# Valid libraries

Whatever texts are loaded, leniently or strictly, and whether a call takes everything in, leaves
definitions out or stops halfway: the library stays valid.

* `Definition.Sound` is what a definition that is read from a text keeps to, `sound_of_definition`
  that it does.
* `Library.Valid` is what a library keeps to; `Library.valid_iff` takes it apart, and
  `Library.Valid.add` and `Library.Valid.withoutItemType` preserve it.
* `Loader.loadAll` is a loader after any calls; `Loader.valid_loadAll`: its library is valid, and
  `Loader.valid_of_finish`: so is a library that it hands over in the end.
-/

namespace Reckoning

/-! ### Definitions -/

/-- The definition can come up: it has something to wait for, and it can be drawn. -/
def Definition.Drawable : Definition → Prop
  | .quirk d => d.triggers ≠ [] ∧ IsWeight d.weight
  | .failing d => d.triggers ≠ [] ∧ IsWeight d.weight
  | .uselessBit d => d.triggers ≠ [] ∧ IsWeight d.weight
  | .itemQuirk _ => True
  | .itemType _ => True
  | .environmentalQuirk _ => True
  | .action _ => True
  | .reputationBias d => IsWeight d.weight

/-- The definition keeps the rules of its kind. -/
structure Definition.Sound (d : Definition) : Prop where
  inLimits : d.InLimits
  drawable : d.Drawable

theorem drawable_of_check {d : Draft} {x : Definition} (h : d.check = .ok x) : x.Drawable := by
  cases d <;> rw [Draft.check] at h
  case quirk d =>
    obtain ⟨q, hq, rfl⟩ := map_eq_ok_iff.1 h
    obtain ⟨hw, ts, ht, m, -, rfl⟩ := QuirkDraft.check_eq_ok_iff.1 hq
    exact ⟨ne_nil_of_checkTriggers ht, checkWeight_eq_ok_iff.1 hw⟩
  case failing d =>
    obtain ⟨f, hf, rfl⟩ := map_eq_ok_iff.1 h
    obtain ⟨-, -, as, -, hw, ts, ht, m, -, rfl⟩ := FailingDraft.check_eq_ok_iff.1 hf
    exact ⟨ne_nil_of_checkTriggers ht, checkWeight_eq_ok_iff.1 hw⟩
  case uselessBit d =>
    obtain ⟨b, hb, rfl⟩ := map_eq_ok_iff.1 h
    obtain ⟨hw, ts, ht, m, -, n, -, rfl⟩ := UselessBitDraft.check_eq_ok_iff.1 hb
    exact ⟨ne_nil_of_checkTriggers ht, checkWeight_eq_ok_iff.1 hw⟩
  case reputationBias d =>
    obtain ⟨⟨⟩, hw, rfl⟩ := map_eq_ok_iff.1 h
    exact checkWeight_eq_ok_iff.1 hw
  case itemType d =>
    cases h
    trivial
  -- the other kinds are neither drawn nor triggered
  all_goals
    obtain ⟨y, -, rfl⟩ := map_eq_ok_iff.1 h
    trivial

theorem sound_of_definition {e : Entry} {d : Definition} (h : e.definition = .ok d) : d.Sound := by
  refine ⟨inLimits_of_definition h, ?_⟩
  unfold Entry.definition at h
  split at h
  · exact drawable_of_check h
  · cases h

/-! ### Libraries -/

namespace Library

/-- What a library that is filled from texts keeps to. -/
structure Valid (l : Library) : Prop where
  /-- No two definitions of one kind share an id, and no two traits of characters. -/
  distinct : l.Distinct
  /-- A section knows each of its definitions by its own id, and nothing else. -/
  keyed : ∀ k id d, l.find? k id = some d ↔ l.Has d ∧ d.kind = k ∧ d.id = id
  sound : ∀ d, l.Has d → d.Sound

theorem Distinct.find?_eq_some {l : Library} (h : l.Distinct) (k : Kind) (id : DefId)
    (d : Definition) : l.find? k id = some d ↔ l.Has d ∧ d.kind = k ∧ d.id = id := by
  have hk := h.kinds k
  cases k <;> simp only [find?, Option.map_eq_some_iff, quirk?, failing?, uselessBit?, itemQuirk?,
    itemType?, environmentalQuirk?, action?, reputationBias?, find?_eq_some_of_nodup hk] <;>
    cases d <;> simp [Has, Definition.kind, Definition.id]

theorem valid_iff {l : Library} : l.Valid ↔ l.Distinct ∧ ∀ d, l.Has d → d.Sound :=
  ⟨fun h => ⟨h.distinct, h.sound⟩, fun h => ⟨h.1, h.1.find?_eq_some, h.2⟩⟩

namespace Valid

theorem empty : Valid Library.empty :=
  valid_iff.2 ⟨.empty, fun d hd => absurd hd (not_has_empty d)⟩

theorem add {l l' : Library} {d : Definition} (h : l.Valid) (hd : d.Sound)
    (ha : l.add d = .ok l') : l'.Valid := by
  refine valid_iff.2 ⟨h.distinct.add ha, fun x hx => ?_⟩
  obtain ⟨-, rfl⟩ := add_eq_ok.1 ha
  rcases has_append.1 hx with hx | rfl
  · exact h.sound x hx
  · exact hd

theorem withoutItemType {l : Library} (h : l.Valid) (id : DefId) : (l.withoutItemType id).Valid :=
  valid_iff.2 ⟨h.distinct.withoutItemType id, fun d hd => h.sound d (has_of_withoutItemType hd)⟩

end Valid

end Library

/-! ### Calls -/

/-- A call that takes a text in. -/
structure LoadCall where
  /-- The first refused definition is an error. -/
  strict : Bool
  text : String

namespace Loader

/-- The loader that a call leaves behind, whether it was stopped or not. -/
def call (l : Loader) (c : LoadCall) : Loader := ({ l with strict := c.strict }.load c.text).1

/-- A new loader after some calls. -/
def loadAll (calls : List LoadCall) : Loader := calls.foldl call (start false)

theorem loadAll_concat (calls : List LoadCall) (c : LoadCall) :
    loadAll (calls ++ [c]) = (loadAll calls).call c := List.foldl_concat ..

theorem valid_call {l : Loader} (h : l.library.Valid) (c : LoadCall) : (l.call c).library.Valid :=
  load_induction (l := { l with strict := c.strict })
    (fun _ _ _ _ hl he ha => hl.add (sound_of_definition he) ha) h c.text

theorem valid_library (calls : List LoadCall) : (loadAll calls).library.Valid := by
  induction calls using List.reverseRecOn with
  | nil => exact .empty
  | append_singleton calls c ih =>
    rw [loadAll_concat]
    exact valid_call ih c

/-- A library that is handed over in the end is valid as well. -/
theorem valid_of_finish {calls : List LoadCall} {library : Library} {report : LoadReport}
    (h : (loadAll calls).finish = .ok (library, report)) : library.Valid :=
  finish_induction (fun _ id hl => hl.withoutItemType id) (valid_library calls) h

/-- A text that is no content file is taken in without a trace. -/
theorem call_of_unreadable (l : Loader) {c : LoadCall} (h : contentEntries? c.text = none) :
    l.call c = { l with strict := c.strict } := by
  unfold call load
  rw [h]

/-- **A library that is filled from texts is always valid**, and a text that is no content file
changes nothing. -/
theorem valid_loadAll (calls : List LoadCall) :
    (loadAll calls).library.Valid ∧ ∀ c, contentEntries? c.text = none →
      (loadAll (calls ++ [c])).library = (loadAll calls).library ∧
      (loadAll (calls ++ [c])).rejected = (loadAll calls).rejected := by
  refine ⟨valid_library calls, fun c hc => ?_⟩
  rw [loadAll_concat, call_of_unreadable _ hc]
  exact ⟨rfl, rfl⟩

end Loader

/-! ### A text that breaks off -/

namespace Bakery

/-- Two quirks under one id. -/
def twice : LoadCall := ⟨false, "(quirks: [(id: \"calm\"), (id: \"calm\", rarity_weight: 2.5)])"⟩

/-- A quirk, and nothing behind it. -/
def torn : LoadCall := ⟨true, "(quirks: [(id: \"vain\"),"⟩

theorem torn_changes_nothing :
    ((Loader.loadAll [twice]).library.ids .quirk = ["calm"] ∧
      (Loader.loadAll [twice]).rejected.length = 1) ∧
    contentEntries? torn.text = none ∧ (Loader.loadAll [twice]).library.Valid ∧
    (Loader.loadAll [twice, torn]).library = (Loader.loadAll [twice]).library ∧
    (Loader.loadAll [twice, torn]).rejected = (Loader.loadAll [twice]).rejected := by
  have htorn : contentEntries? torn.text = none := by
    have h : (contentEntries? torn.text).isNone = true := by decide +kernel
    exact Option.isNone_iff_eq_none.1 h
  obtain ⟨hvalid, hkept⟩ := Loader.valid_loadAll [twice]
  exact ⟨by decide +kernel, htorn, hvalid, hkept torn htorn⟩

end Bakery

end Reckoning
