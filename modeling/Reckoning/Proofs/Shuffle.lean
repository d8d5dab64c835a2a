import Mathlib.Data.List.Permutation
import Mathlib.Data.Set.Card
import Reckoning.Proofs.Engine.Sampling

/-!
# Shuffles

A shuffle fills a list from its end, each time with one of the elements that have no place yet.  So
every arrangement is reached, and there is only one way to it.

* `IsSchedule` says which exchanges a shuffle can make; `isSchedule_swapIndices` and
  `getElem?_swapIndices` say which of them it draws.
* `exchangeAll_cons`: the first exchange takes an element out, as a draw without putting back does,
  and the others arrange what is left.
* `exists_exchangeAll_eq` and `IsSchedule.eq_of_exchangeAll_eq` follow by induction.
* `shuffles_evenly`: schedules and arrangements correspond one to one.
-/

namespace Reckoning

open scoped Nat

/-! ### Schedules -/

/-- A schedule for `n` elements: every index from `n - 1` down to one is exchanged with one that is
not above it. -/
structure IsSchedule (n : Nat) (schedule : List (Nat × Nat)) : Prop where
  indices : schedule.map (·.1) = (List.range' 1 (n - 1)).reverse
  partners : ∀ p ∈ schedule, p.2 ≤ p.1

/-- The schedules for `n` elements. -/
def schedules (n : Nat) : Set (List (Nat × Nat)) := {s | IsSchedule n s}

theorem isSchedule_of_le_one {n : Nat} (h : n ≤ 1) {schedule : List (Nat × Nat)} :
    IsSchedule n schedule ↔ schedule = [] := by
  have hn : n - 1 = 0 := by omega
  constructor
  · intro hs
    have hindices := hs.indices
    rw [hn] at hindices
    exact List.map_eq_nil_iff.1 hindices
  · rintro rfl
    exact ⟨by rw [hn]; rfl, nofun⟩

/-- The last index comes first, with any partner, and then a schedule for the elements before it. -/
theorem isSchedule_cons {n : Nat} {p : Nat × Nat} {rest : List (Nat × Nat)} :
    IsSchedule (n + 2) (p :: rest) ↔ p.1 = n + 1 ∧ p.2 ≤ n + 1 ∧ IsSchedule (n + 1) rest := by
  have hindices : (List.range' 1 (n + 2 - 1)).reverse =
      (n + 1) :: (List.range' 1 (n + 1 - 1)).reverse := by
    change (List.range' 1 (n + 1)).reverse = (n + 1) :: (List.range' 1 n).reverse
    rw [List.range'_1_concat, List.reverse_append, Nat.add_comm 1 n]
    rfl
  constructor
  · rintro ⟨hi, hp⟩
    rw [hindices, List.map_cons, List.cons.injEq] at hi
    obtain ⟨hp, hrest⟩ := List.forall_mem_cons.1 hp
    exact ⟨hi.1, hi.1 ▸ hp, hi.2, hrest⟩
  · rintro ⟨hi, hp, hrest⟩
    refine ⟨?_, List.forall_mem_cons.2 ⟨hi.symm ▸ hp, hrest.partners⟩⟩
    rw [hindices, List.map_cons, hi, hrest.indices]

theorem IsSchedule.exists_cons {n : Nat} {schedule : List (Nat × Nat)}
    (h : IsSchedule (n + 2) schedule) :
    ∃ j rest, schedule = (n + 1, j) :: rest ∧ j ≤ n + 1 ∧ IsSchedule (n + 1) rest := by
  cases schedule with
  | nil =>
    have hlength := congrArg List.length h.indices
    simp at hlength
  | cons p rest =>
    obtain ⟨hi, hj, hrest⟩ := isSchedule_cons.1 h
    exact ⟨p.2, rest, by rw [← hi], hj, hrest⟩

theorem IsSchedule.lt {n : Nat} {schedule : List (Nat × Nat)} (h : IsSchedule n schedule)
    {p : Nat × Nat} (hp : p ∈ schedule) : p.1 < n ∧ p.2 < n := by
  have hmem : p.1 ∈ (List.range' 1 (n - 1)).reverse := h.indices ▸ List.mem_map_of_mem hp
  rw [List.mem_reverse, List.mem_range'_1] at hmem
  have := h.partners p hp
  omega

namespace Generator

theorem isSchedule_swapIndices (n : Nat) (g : Generator) : IsSchedule n (swapIndices n g).1 := by
  induction n generalizing g with
  | zero => exact (isSchedule_of_le_one (Nat.zero_le 1)).2 rfl
  | succ n ih =>
    cases n with
    | zero => exact (isSchedule_of_le_one (Nat.le_refl 1)).2 rfl
    | succ n =>
      have hj : (g.below (n + 2)).1 < n + 2 := Nat.mod_lt _ (by omega)
      exact isSchedule_cons.2 ⟨rfl, Nat.lt_succ_iff.1 hj, ih (g.below (n + 2)).2⟩

/-- Every index has its own word. -/
theorem getElem?_swapIndices (n : Nat) (g : Generator) {k : Nat} (hk : k < n - 1) :
    (swapIndices n g).1[k]? = some (n - 1 - k, (g.advance k).next.1.toNat % (n - k)) := by
  induction n generalizing g k with
  | zero => omega
  | succ n ih =>
    cases n with
    | zero => omega
    | succ n =>
      cases k with
      | zero => rfl
      | succ k =>
        have hrest := ih (g.below (n + 2)).2 (k := k) (by omega)
        change (swapIndices (n + 1) (g.below (n + 2)).2).1[k]? = _
        have hindex : n + 1 - 1 - k = n + 2 - 1 - (k + 1) := by omega
        rw [hrest, snd_below, advance_advance, Nat.add_comm 1 k, hindex,
          Nat.add_sub_add_right (n + 1) 1 k]

end Generator

/-! ### What an exchange does -/

section

variable {α : Type} {xs ys : List α}

theorem length_swapRemove {i : Nat} {x : α} (h : xs[i]? = some x) :
    (swapRemove xs i).length + 1 = xs.length :=
  (swapRemove_perm h).length_eq

/-- An exchange with the last element puts it to the end, and what is left is as after it was taken
out. -/
theorem exchange_last {n j : Nat} {x : α} (hn : xs.length = n + 1) (hx : xs[j]? = some x) :
    exchange xs n j = swapRemove xs j ++ [x] := by
  obtain ⟨front, last, rfl⟩ : ∃ front last, xs = front ++ [last] :=
    (List.eq_nil_or_concat' xs).resolve_left fun h => by simp [h] at hn
  obtain rfl : front.length = n := by simpa using hn
  have hlast : (front ++ [last])[front.length]? = some last := List.getElem?_concat_length
  unfold exchange swapRemove
  rw [hlast, hx, List.getLast?_concat]
  by_cases hj : j < front.length
  · -- the last element moves to the place of the other
    simp [List.set_append_left _ _ hj]
  · have hj : j = front.length := by
      have := (List.getElem?_eq_some_iff.1 hx).1
      rw [List.length_append, List.length_singleton] at this
      omega
    subst hj
    obtain rfl : last = x := by simpa using hx
    simp

theorem exchange_append {i j : Nat} (hi : i < xs.length) (hj : j < xs.length) :
    exchange (xs ++ ys) i j = exchange xs i j ++ ys := by
  unfold exchange
  rw [List.getElem?_append_left hi, List.getElem?_append_left hj, List.getElem?_eq_getElem hi,
    List.getElem?_eq_getElem hj]
  simp only
  rw [List.set_append_left _ _ hi, List.set_append_left _ _ (by rwa [List.length_set])]

/-- Exchanges leave alone what they do not reach. -/
theorem exchangeAll_append {schedule : List (Nat × Nat)}
    (h : ∀ p ∈ schedule, p.1 < xs.length ∧ p.2 < xs.length) :
    exchangeAll (xs ++ ys) schedule = exchangeAll xs schedule ++ ys := by
  induction schedule generalizing xs with
  | nil => rfl
  | cons p rest ih =>
    obtain ⟨⟨hi, hj⟩, hrest⟩ := List.forall_mem_cons.1 h
    change exchangeAll (exchange (xs ++ ys) p.1 p.2) rest = _
    rw [exchange_append hi hj]
    refine ih fun q hq => ?_
    rw [(exchange_perm xs p.1 p.2).length_eq]
    exact hrest q hq

/-- **The first exchange takes an element out for the end, and the others arrange what is left.** -/
theorem exchangeAll_cons {n j : Nat} {x : α} {rest : List (Nat × Nat)} (hn : xs.length = n + 1)
    (hx : xs[j]? = some x) (hrest : IsSchedule n rest) :
    exchangeAll xs ((n, j) :: rest) = exchangeAll (swapRemove xs j) rest ++ [x] := by
  have hlength : (swapRemove xs j).length = n := by
    have := length_swapRemove hx
    omega
  change exchangeAll (exchange xs n j) rest = _
  rw [exchange_last hn hx]
  exact exchangeAll_append fun p hp => hlength.symm ▸ hrest.lt hp

/-! ### Schedules and arrangements -/

/-- Every arrangement is reached. -/
theorem exists_exchangeAll_eq (h : ys.Perm xs) :
    ∃ schedule, IsSchedule xs.length schedule ∧ exchangeAll xs schedule = ys := by
  induction hn : xs.length generalizing xs ys with
  | zero =>
    obtain rfl := List.length_eq_zero_iff.1 hn
    obtain rfl := List.perm_nil.1 h
    exact ⟨[], (isSchedule_of_le_one (Nat.zero_le 1)).2 rfl, rfl⟩
  | succ n ih =>
    cases n with
    | zero =>
      obtain ⟨x, rfl⟩ := List.length_eq_one_iff.1 hn
      obtain rfl := List.perm_singleton.1 h
      exact ⟨[], (isSchedule_of_le_one (Nat.le_refl 1)).2 rfl, rfl⟩
    | succ n =>
      obtain ⟨front, y, rfl⟩ : ∃ front y, ys = front ++ [y] :=
        (List.eq_nil_or_concat' ys).resolve_left fun hnil => by
          rw [hnil] at h
          rw [← h.length_eq] at hn
          cases hn
      have hy : y ∈ xs := h.subset (List.mem_append_right front List.mem_cons_self)
      obtain ⟨j, hj⟩ := List.getElem?_of_mem hy
      -- what comes before the last element arranges what is left without it
      have hcons : (y :: swapRemove xs j).Perm (y :: front) :=
        (swapRemove_perm hj).trans (h.symm.trans (List.perm_append_singleton y front))
      have hfront : front.Perm (swapRemove xs j) := hcons.cons_inv.symm
      have hlength := length_swapRemove hj
      obtain ⟨rest, hrest, heq⟩ := ih hfront (by omega)
      refine ⟨(n + 1, j) :: rest, isSchedule_cons.2 ⟨rfl, ?_, hrest⟩, ?_⟩
      · have := (List.getElem?_eq_some_iff.1 hj).1
        omega
      · rw [exchangeAll_cons hn hj hrest, heq]

/-- Without repeats, there is only one way to an arrangement. -/
theorem IsSchedule.eq_of_exchangeAll_eq (hxs : xs.Nodup) {s t : List (Nat × Nat)}
    (hs : IsSchedule xs.length s) (ht : IsSchedule xs.length t)
    (h : exchangeAll xs s = exchangeAll xs t) : s = t := by
  induction hn : xs.length generalizing xs s t with
  | zero =>
    rw [hn, isSchedule_of_le_one (Nat.zero_le 1)] at hs ht
    rw [hs, ht]
  | succ n ih =>
    rw [hn] at hs ht
    cases n with
    | zero =>
      rw [isSchedule_of_le_one (Nat.le_refl 1)] at hs ht
      rw [hs, ht]
    | succ n =>
      obtain ⟨i, s, rfl, hi, hs'⟩ := hs.exists_cons
      obtain ⟨j, t, rfl, hj, ht'⟩ := ht.exists_cons
      have hxi := List.getElem?_eq_getElem (show i < xs.length by omega)
      have hxj := List.getElem?_eq_getElem (show j < xs.length by omega)
      rw [exchangeAll_cons hn hxi hs', exchangeAll_cons hn hxj ht'] at h
      -- the last elements are equal, so they were taken from one place
      obtain ⟨hrest, hlast⟩ := List.append_inj' h rfl
      obtain rfl : i = j := hxs.getElem_inj_iff.1 (List.singleton_inj.1 hlast)
      have hlength : (swapRemove xs i).length = n + 1 := by
        have := length_swapRemove hxi
        omega
      have hnodup : (swapRemove xs i).Nodup :=
        (List.nodup_cons.1 ((swapRemove_perm hxi).nodup_iff.2 hxs)).2
      rw [ih hnodup (hlength.symm ▸ hs') (hlength.symm ▸ ht') hrest hlength]

/-- The arrangements of a list. -/
def arrangements (xs : List α) : Set (List α) := {ys | ys.Perm xs}

theorem bijOn_exchangeAll (hxs : xs.Nodup) :
    Set.BijOn (exchangeAll xs) (schedules xs.length) (arrangements xs) :=
  ⟨fun s _ => exchangeAll_perm s xs, fun _ hs _ ht h => hs.eq_of_exchangeAll_eq hxs ht h,
    fun _ h => exists_exchangeAll_eq h⟩

theorem ncard_arrangements (hxs : xs.Nodup) : (arrangements xs).ncard = xs.length ! := by
  classical
  have hset : arrangements xs = (xs.permutations.toFinset : Set (List α)) := by
    ext ys
    simp [arrangements]
  rw [hset, Set.ncard_coe_finset, List.toFinset_card_of_nodup (List.nodup_permutations xs hxs),
    List.length_permutations]

end

/-- There are as many schedules as there are arrangements. -/
theorem ncard_schedules (n : Nat) : (schedules n).ncard = n ! := by
  have hbij := (bijOn_exchangeAll (List.nodup_range (n := n))).ncard_eq
  rwa [ncard_arrangements List.nodup_range, List.length_range] at hbij

/-- What a shuffle does, whatever the luck. -/
structure Generator.Shuffles {α : Type} (g : Generator) (xs : List α) : Prop where
  /-- Nothing is lost or doubled. -/
  perm : (g.shuffle xs).1.Perm xs
  /-- Every element but one takes a word. -/
  words : (g.shuffle xs).2 = g.advance (xs.length - 1)
  /-- The words decide on a schedule, and the schedule on the arrangement. -/
  drawn : ∃ schedule, IsSchedule xs.length schedule ∧
    (∀ k < xs.length - 1, schedule[k]? =
      some (xs.length - 1 - k, (g.advance k).next.1.toNat % (xs.length - k))) ∧
    (g.shuffle xs).1 = exchangeAll xs schedule

theorem Generator.shuffles {α : Type} (g : Generator) (xs : List α) : g.Shuffles xs where
  perm := g.shuffle_perm xs
  words := g.snd_shuffle xs
  drawn := ⟨(swapIndices xs.length g).1, isSchedule_swapIndices xs.length g,
    fun _ hk => getElem?_swapIndices xs.length g hk, rfl⟩

/-- **A shuffle arranges a list by a schedule, and every arrangement of a list without repeats comes
from exactly one schedule.** -/
theorem shuffles_evenly {α : Type} (xs : List α) :
    (∀ g : Generator, g.Shuffles xs) ∧
    (schedules xs.length).ncard = xs.length ! ∧
    (xs.Nodup → Set.BijOn (exchangeAll xs) (schedules xs.length) (arrangements xs) ∧
      (arrangements xs).ncard = xs.length !) :=
  ⟨fun g => g.shuffles xs, ncard_schedules xs.length,
    fun hxs => ⟨bijOn_exchangeAll hxs, ncard_arrangements hxs⟩⟩

/-! ### Three cups -/

namespace Cups

/-- Three cups in a row. -/
def row : List String := ["tin", "clay", "glass"]

/-- One schedule alone turns the row around. -/
theorem turned_in_one_way : row.Nodup ∧
    ∃! s, IsSchedule 3 s ∧ exchangeAll row s = ["glass", "clay", "tin"] := by
  have hrow : row.Nodup := by decide
  obtain ⟨-, hinj, hsurj⟩ := ((shuffles_evenly row).2.2 hrow).1
  obtain ⟨s, hs, heq⟩ := hsurj (show ["glass", "clay", "tin"].Perm row by decide)
  exact ⟨hrow, s, ⟨hs, heq⟩, fun t ht => hinj ht.1 hs (ht.2.trans heq.symm)⟩

end Cups

end Reckoning
