import Mathlib.Algebra.Group.Nat.Defs
import Mathlib.Data.List.Basic
import Reckoning.Proofs.Text.Utf8
import Reckoning.Seed

/-!
# What is digested is unambiguous

A seed is the digest of some bytes, and the bytes tell what they were made of: the purpose of the
draw, and every part of it in its place.  So seeds can only agree where the digest collides.

* `littleEndian_inj`: the eight bytes of a word tell the word.
* `framed_append_inj`: bytes behind their number can be told from what follows them, whatever
  that is.
* `SeedPart.Fits` is a part that is short enough for its length to be written in eight bytes.
* `preimage_eq_iff` and `purpose_eq_of_preimage_eq` read the parts and the purpose off the bytes,
  `resolutionParts_inj` what determines a resolution off its parts.
* `preimage_unambiguous` puts this together.
-/

namespace Reckoning

/-! ### Words and frames -/

@[simp] theorem length_littleEndian (w : UInt64) : (littleEndian w).length = 8 := rfl

theorem getElem?_littleEndian (w : UInt64) {i : Nat} (hi : i < 8) :
    (littleEndian w)[i]? = some (UInt8.ofNat (w.toNat / 2 ^ (8 * i))) := by
  have hshift : (8 * i).toUInt64.toNat % 64 = 8 * i := by
    simp only [Nat.toUInt64_eq, UInt64.toNat_ofNat']
    omega
  unfold littleEndian
  rw [List.getElem?_map, List.getElem?_range hi, Option.map_some, Option.some_inj,
    ← UInt8.toNat_inj, UInt64.toNat_toUInt8, UInt64.toNat_shiftRight, hshift,
    Nat.shiftRight_eq_div_pow, UInt8.toNat_ofNat']

/-- Bytes tell as much of a number as there are of them. -/
theorem mod_eq_of_bytes {v w : Nat} (n : Nat)
    (h : ∀ i < n, v / 256 ^ i % 256 = w / 256 ^ i % 256) : v % 256 ^ n = w % 256 ^ n := by
  induction n with
  | zero => rw [Nat.pow_zero, Nat.mod_one, Nat.mod_one]
  | succ n ih =>
    have hlower := ih fun i hi => h i (Nat.lt_succ_of_lt hi)
    rw [Nat.mod_pow_succ, Nat.mod_pow_succ, hlower, h n (Nat.lt_succ_self n)]

theorem littleEndian_inj {v w : UInt64} (h : littleEndian v = littleEndian w) : v = w := by
  have hbytes : ∀ i < 8, v.toNat / 256 ^ i % 256 = w.toNat / 256 ^ i % 256 := by
    intro i hi
    have hi' := congrArg (fun bytes => bytes[i]?.map UInt8.toNat) h
    simpa only [getElem?_littleEndian _ hi, Option.map_some, Option.some_inj, UInt8.toNat_ofNat',
      Nat.pow_mul] using hi'
  have hword (u : UInt64) : u.toNat % 256 ^ 8 = u.toNat := by
    have := u.toNat_lt
    exact Nat.mod_eq_of_lt (by omega)
  have hmod := mod_eq_of_bytes 8 hbytes
  rw [hword, hword] at hmod
  exact UInt64.toNat_inj.1 hmod

theorem framed_ne_nil (bytes : List UInt8) : framed bytes ≠ [] :=
  List.append_ne_nil_of_left_ne_nil (List.ne_nil_of_length_pos (by simp)) bytes

/-- Bytes behind their number end where the number says. -/
theorem framed_append_inj {xs ys xs' ys' : List UInt8} (hx : xs.length < 2 ^ 64)
    (hy : ys.length < 2 ^ 64) (h : framed xs ++ xs' = framed ys ++ ys') : xs = ys ∧ xs' = ys' := by
  unfold framed at h
  rw [List.append_assoc, List.append_assoc] at h
  obtain ⟨hnumber, hrest⟩ := List.append_inj h rfl
  have hlength := congrArg UInt64.toNat (littleEndian_inj hnumber)
  simp only [Nat.toUInt64_eq, UInt64.toNat_ofNat', Nat.mod_eq_of_lt hx, Nat.mod_eq_of_lt hy]
    at hlength
  exact List.append_inj hrest hlength

theorem flatMap_framed_inj {xss yss : List (List UInt8)} (hx : ∀ xs ∈ xss, xs.length < 2 ^ 64)
    (hy : ∀ ys ∈ yss, ys.length < 2 ^ 64) (h : xss.flatMap framed = yss.flatMap framed) :
    xss = yss := by
  induction xss generalizing yss with
  | nil =>
    cases yss with
    | nil => rfl
    | cons ys yss =>
      rw [List.flatMap_nil, List.flatMap_cons, eq_comm, List.append_eq_nil_iff] at h
      exact absurd h.1 (framed_ne_nil ys)
  | cons xs xss ih =>
    cases yss with
    | nil =>
      rw [List.flatMap_nil, List.flatMap_cons, List.append_eq_nil_iff] at h
      exact absurd h.1 (framed_ne_nil xs)
    | cons ys yss =>
      obtain ⟨hxs, hxss⟩ := List.forall_mem_cons.1 hx
      obtain ⟨hys, hyss⟩ := List.forall_mem_cons.1 hy
      rw [List.flatMap_cons, List.flatMap_cons] at h
      obtain ⟨rfl, hrest⟩ := framed_append_inj hxs hys h
      rw [ih hxss hyss hrest]

/-! ### Parts -/

/-- The number of a part's bytes can be written in eight bytes. -/
def SeedPart.Fits (part : SeedPart) : Prop := part.bytes.length < 2 ^ 64

instance (part : SeedPart) : Decidable part.Fits :=
  inferInstanceAs (Decidable (part.bytes.length < 2 ^ 64))

theorem SeedPart.fits_number (w : UInt64) : (number w).Fits := by
  unfold Fits bytes
  rw [length_littleEndian]
  decide

theorem preimage_eq_flatMap (purpose : String) (parts : List SeedPart) :
    preimage purpose parts =
      ((SeedPart.text purpose :: parts).map SeedPart.bytes).flatMap framed := by
  rw [List.flatMap_map]
  rfl

/-- The digested bytes are those of the same purpose and parts, and of no others. -/
theorem preimage_eq_iff {p q : String} {ps qs : List SeedPart}
    (hp : ∀ part ∈ SeedPart.text p :: ps, part.Fits)
    (hq : ∀ part ∈ SeedPart.text q :: qs, part.Fits) :
    preimage p ps = preimage q qs ↔ p = q ∧ ps.map SeedPart.bytes = qs.map SeedPart.bytes := by
  rw [preimage_eq_flatMap, preimage_eq_flatMap]
  constructor
  · intro h
    have hall := flatMap_framed_inj (List.forall_mem_map.2 hp) (List.forall_mem_map.2 hq) h
    rw [List.map_cons, List.map_cons] at hall
    obtain ⟨hpurpose, hparts⟩ := List.cons.inj hall
    exact ⟨utf8_inj hpurpose, hparts⟩
  · rintro ⟨rfl, hparts⟩
    rw [List.map_cons, List.map_cons, hparts]

/-- The purpose stands in front, so it can be told however long the parts are. -/
theorem purpose_eq_of_preimage_eq {p q : String} {ps qs : List SeedPart}
    (hp : (SeedPart.text p).Fits) (hq : (SeedPart.text q).Fits)
    (h : preimage p ps = preimage q qs) : p = q := by
  unfold preimage at h
  rw [List.flatMap_cons, List.flatMap_cons] at h
  exact utf8_inj (framed_append_inj hp hq h).1

/-! ### Resolutions -/

/-- The parts of a resolution fit if its three texts do. -/
theorem fits_of_mem_resolutionParts {character : CharacterId} {action : DefId} {room : RoomId}
    {items : List ItemId} {seed : String}
    (h : ∀ text ∈ [action.text, room.text, seed], (SeedPart.text text).Fits) :
    ∀ part ∈ .text "resolve" :: resolutionParts character action room items seed, part.Fits := by
  have hpurpose : (SeedPart.text "resolve").Fits := by decide +kernel
  simp only [List.forall_mem_cons] at h
  obtain ⟨haction, hroom, hseed, -⟩ := h
  unfold resolutionParts
  simp only [List.forall_mem_cons, List.forall_mem_append, List.forall_mem_map,
    SeedPart.fits_number, hpurpose, haction, hroom, hseed, true_and]
  exact ⟨⟨List.forall_mem_nil _, fun _ _ => trivial⟩, List.forall_mem_nil _⟩

theorem map_number_inj {items items' : List ItemId}
    (h : items.map (fun i => littleEndian i.raw) = items'.map (fun i => littleEndian i.raw)) :
    items = items' := by
  refine List.map_injective_iff.2 (fun i j hij => ?_) h
  exact ItemId.mk.injEq .. ▸ littleEndian_inj hij

/-- The bytes of its parts tell a resolution. -/
theorem resolutionParts_inj {character character' : CharacterId} {action action' : DefId}
    {room room' : RoomId} {items items' : List ItemId} {seed seed' : String}
    (h : (resolutionParts character action room items seed).map SeedPart.bytes =
      (resolutionParts character' action' room' items' seed').map SeedPart.bytes) :
    character = character' ∧ action = action' ∧ room = room' ∧ items = items' ∧ seed = seed' := by
  unfold resolutionParts at h
  simp only [List.map_append, List.map_cons, List.map_nil, List.map_map, List.cons_append,
    List.nil_append, List.cons.injEq] at h
  obtain ⟨hcharacter, haction, hroom, -, hrest⟩ := h
  -- the seed is the last part, so what is in front of it are the items
  obtain ⟨hitems, hseed⟩ := List.append_inj' hrest rfl
  refine ⟨?_, ?_, ?_, map_number_inj hitems, utf8_inj (List.cons.inj hseed).1⟩
  · exact CharacterId.mk.injEq .. ▸ littleEndian_inj hcharacter
  · exact DefId.mk.injEq .. ▸ utf8_inj haction
  · exact RoomId.mk.injEq .. ▸ utf8_inj hroom

/-! ### Everything that is digested -/

/-- **What is digested is unambiguous.**  The bytes tell the purpose and the bytes of every part;
those of a resolution tell its character, action, room, items and seed; and no two of the purposes
that seeds are drawn for share any bytes. -/
theorem preimage_unambiguous :
    (∀ (p q : String) (ps qs : List SeedPart), (∀ part ∈ SeedPart.text p :: ps, part.Fits) →
      (∀ part ∈ SeedPart.text q :: qs, part.Fits) →
      (preimage p ps = preimage q qs ↔ p = q ∧ ps.map SeedPart.bytes = qs.map SeedPart.bytes)) ∧
    (∀ (character character' : CharacterId) (action action' : DefId) (room room' : RoomId)
      (items items' : List ItemId) (seed seed' : String),
      (∀ text ∈ [action.text, room.text, seed], (SeedPart.text text).Fits) →
      (∀ text ∈ [action'.text, room'.text, seed'], (SeedPart.text text).Fits) →
      preimage "resolve" (resolutionParts character action room items seed) =
        preimage "resolve" (resolutionParts character' action' room' items' seed') →
      character = character' ∧ action = action' ∧ room = room' ∧ items = items' ∧ seed = seed') ∧
    ∀ p ∈ ["resolve", "issue", "character"], ∀ q ∈ ["resolve", "issue", "character"],
      ∀ ps qs, preimage p ps = preimage q qs → p = q := by
  refine ⟨fun p q ps qs hp hq => preimage_eq_iff hp hq, ?_, fun p hp q hq ps qs h => ?_⟩
  · intro character character' action action' room room' items items' seed seed' h h' heq
    have hbytes := (preimage_eq_iff (fits_of_mem_resolutionParts h)
      (fits_of_mem_resolutionParts h')).1 heq
    exact resolutionParts_inj hbytes.2
  · have hfits : ∀ purpose ∈ ["resolve", "issue", "character"], (SeedPart.text purpose).Fits := by
      decide +kernel
    exact purpose_eq_of_preimage_eq (hfits p hp) (hfits q hq) h

namespace Angling

/-- Items in another order and texts that are cut elsewhere make other bytes. -/
theorem preimages_apart :
    (∀ text ∈ ["fish", "river_bend", "dawn"], (SeedPart.text text).Fits) ∧
    (∀ text ∈ ["t", "ab", "c", "a", "bc"], (SeedPart.text text).Fits) ∧
    preimage "resolve" (resolutionParts ⟨1⟩ "fish" "river_bend" [⟨3⟩, ⟨4⟩] "dawn") ≠
      preimage "resolve" (resolutionParts ⟨1⟩ "fish" "river_bend" [⟨4⟩, ⟨3⟩] "dawn") ∧
    preimage "t" [.text "ab", .text "c"] ≠ preimage "t" [.text "a", .text "bc"] := by
  have hresolution : ∀ text ∈ ["fish", "river_bend", "dawn"], (SeedPart.text text).Fits := by
    decide +kernel
  refine ⟨hresolution, by decide +kernel, fun h => ?_, fun h => ?_⟩
  · have hsame := preimage_unambiguous.2.1 _ _ _ _ _ _ _ _ _ _ hresolution hresolution h
    exact absurd hsame.2.2.2.1 (by decide)
  · have hsame := (preimage_unambiguous.1 "t" "t" [.text "ab", .text "c"] [.text "a", .text "bc"]
      (by decide +kernel) (by decide +kernel)).1 h
    exact absurd hsame.2 (by decide +kernel)

end Angling

end Reckoning
