import Reckoning.Proofs.Attempt.Outcome
import Reckoning.Proofs.Ranges

/-!
# The luck of an attempt

Luck is drawn once for all axes, in their order, before any of it is read.

* `luckAt` is the luck of the draw at a place, whatever was drawn before it; `get_drawLuck` says
  that the place of an axis decides on its luck.
* `drawEachInWords?` draws luck for one axis after the other, in words; `exists_drawEachInWords?`
  and `exists_drawLuckInWords?` say that it comes to the same.
* `AxisResults.resolveEach` reads luck in an order of its own.
* `DrawsLuck` collects what is known of luck, `luck_within_spread` says that it holds for every seed
  and every spread, as luck is a draw between two bounds like any other.
-/

namespace Reckoning

/-! ### Draws between a spread and its negative -/

/-- The luck of the draw at a place, at most `s` from zero. -/
def luckAt (g : Generator) (s : Int) (i : Nat) : Int := ((g.advance i).between (-s) s).1

/-- The words that luck takes, if it is drawn so often. -/
def luckWords (s : Int) (draws : Nat) : Nat := if 0 < s then draws else 0

@[simp] theorem luckWords_zero (s : Int) : luckWords s 0 = 0 := ite_self 0

section

variable {s : Int}

theorem inRange_of_bounds (hs : s ≤ mostPoints) {n : Int} (hl : -s ≤ n) (hm : n ≤ s) :
    InRange n := by
  unfold InRange leastPoints mostPoints at *
  omega

theorem luckAt_of_pos (hs : 0 < s) (g : Generator) (i : Nat) :
    luckAt g s i = (((g.advance i).next.1.toNat % (2 * s + 1).toNat : Nat) : Int) - s := by
  have hchoices : s - -s + 1 = 2 * s + 1 := by omega
  unfold luckAt
  rw [Generator.between_of_lt _ (by omega), hchoices]
  omega

theorem luckAt_of_zero (g : Generator) (i : Nat) : luckAt g 0 i = 0 := by
  unfold luckAt
  rw [Generator.between_of_le _ (by decide)]
  rfl

theorem luckAt_bounds (h0 : 0 ≤ s) (g : Generator) (i : Nat) :
    -s ≤ luckAt g s i ∧ luckAt g s i ≤ s :=
  (g.advance i).between_bounds (by omega)

/-- Where there is no luck, nothing is drawn. -/
theorem between_luck (h0 : 0 ≤ s) (g : Generator) (k : Nat) :
    (g.advance (luckWords s k)).between (-s) s =
      (luckAt g s k, g.advance (luckWords s (k + 1))) := by
  unfold luckAt luckWords
  by_cases hs : 0 < s
  · rw [if_pos hs, if_pos hs, Generator.between_of_lt _ (by omega), Generator.advance_advance]
  · rw [if_neg hs, if_neg hs, Generator.between_of_le _ (by omega),
      Generator.between_of_le _ (by omega)]

theorem luckAt_advance (h0 : 0 ≤ s) (g : Generator) (k i : Nat) :
    luckAt (g.advance (luckWords s k)) s i = luckAt g s (k + i) := by
  rcases Int.lt_or_eq_of_le h0 with hs | rfl
  · unfold luckAt luckWords
    rw [if_pos hs, Generator.advance_advance]
  · rw [luckAt_of_zero, luckAt_of_zero]

end

/-- The place of an axis decides on its luck. -/
theorem get_drawLuck (seed : UInt64) (spread : Int) (a : Axis) :
    (drawLuck seed spread).get a =
      luckAt (.ofSeed seed) (max spread 0) (Axis.all.idxOf a) := by
  have h0 : 0 ≤ max spread 0 := Int.le_max_right spread 0
  unfold drawLuck
  generalize max spread 0 = s at h0
  -- every draw starts from where the draws before it end
  have hstart : Generator.ofSeed seed = (Generator.ofSeed seed).advance (luckWords s 0) := by
    rw [luckWords_zero, Generator.advance_zero]
  rw [hstart]
  simp only [between_luck h0]
  rw [← hstart]
  cases a <;> rfl

theorem within_drawLuck (seed : UInt64) (spread : Int) (a : Axis) :
    -(max spread 0) ≤ (drawLuck seed spread).get a ∧
      (drawLuck seed spread).get a ≤ max spread 0 := by
  rw [get_drawLuck]
  exact luckAt_bounds (Int.le_max_right spread 0) _ _

/-! ### In words -/

/-- Draw luck for some axes, one after the other, in words. -/
def drawEachInWords? (least most : Int) :
    List Axis → Modifiers → Generator → Option (Modifiers × Generator)
  | [], m, g => some (m, g)
  | axis :: rest, m, g => do
    let (n, g) ← g.betweenInWords? least most
    drawEachInWords? least most rest (m.add axis n) g

/-- Draw the luck on each axis, in words. -/
def drawLuckInWords? (seed : UInt64) (spread : Int) : Option (Modifiers × Generator) := do
  let most ← word? 32 (max spread 0)
  let least ← word? 32 (-most)
  drawEachInWords? least most Axis.all ∅ (.ofSeed seed)

section

variable {s : Int} (h0 : 0 ≤ s) (hs : s ≤ mostPoints)

include h0 hs

theorem drawEachInWords?_cons (axis : Axis) (rest : List Axis) (m : Modifiers) (g : Generator) :
    drawEachInWords? (-s) s (axis :: rest) m g =
      drawEachInWords? (-s) s rest (m.add axis (luckAt g s 0)) (g.advance (luckWords s 1)) := by
  have hlow : InRange (-s) := inRange_of_bounds hs (by omega) (by omega)
  have hhigh : InRange s := inRange_of_bounds hs (by omega) (by omega)
  have hdraw := between_luck h0 g 0
  rw [luckWords_zero, Generator.advance_zero] at hdraw
  rw [drawEachInWords?, g.betweenInWords?_eq hlow hhigh, hdraw]
  rfl

/-- Drawn one after the other, every axis has the luck of its place. -/
theorem exists_drawEachInWords? {axes : List Axis} (hn : axes.Nodup) {m : Modifiers}
    (hm : ∀ a ∈ axes, m.get a = 0) (g : Generator) :
    ∃ drawn, drawEachInWords? (-s) s axes m g =
        some (drawn, g.advance (luckWords s axes.length)) ∧
      ∀ a, drawn.get a = if a ∈ axes then luckAt g s (axes.idxOf a) else m.get a := by
  induction axes generalizing m g with
  | nil =>
    rw [List.length_nil, luckWords_zero]
    exact ⟨m, rfl, fun a => by rw [if_neg List.not_mem_nil]⟩
  | cons axis rest ih =>
    obtain ⟨haxis, hrest⟩ := List.nodup_cons.1 hn
    have hne : ∀ a ∈ rest, a ≠ axis := fun a ha h => haxis (h ▸ ha)
    -- the axes that are left have no points yet
    have hm' : ∀ a ∈ rest, (m.add axis (luckAt g s 0)).get a = 0 := by
      intro a ha
      rw [Modifiers.get_add, if_neg (hne a ha)]
      exact hm a (List.mem_cons_of_mem _ ha)
    obtain ⟨drawn, hdrawn, hget⟩ := ih hrest hm' (g.advance (luckWords s 1))
    refine ⟨drawn, ?_, fun a => ?_⟩
    · have hwords :
          luckWords s 1 + luckWords s rest.length = luckWords s (axis :: rest).length := by
        rw [List.length_cons]
        unfold luckWords
        split_ifs <;> omega
      rw [drawEachInWords?_cons h0 hs, hdrawn, Generator.advance_advance, hwords]
    · rw [hget]
      by_cases ha : a = axis
      · subst ha
        have hluck := luckAt_bounds h0 g 0
        rw [if_neg haxis, if_pos List.mem_cons_self, List.idxOf_cons_self, Modifiers.get_add,
          if_pos rfl, hm a List.mem_cons_self, Int.zero_add,
          saturate_of_inRange (inRange_of_bounds hs hluck.1 hluck.2)]
      · have hmem : a ∈ axis :: rest ↔ a ∈ rest := by simp [ha]
        rw [luckAt_advance h0, Modifiers.get_add, if_neg ha, List.idxOf_cons_ne _ (Ne.symm ha),
          Nat.add_comm 1]
        simp only [hmem]

end

theorem max_le_mostPoints {spread : Int} (h : InRange spread) : max spread 0 ≤ mostPoints := by
  unfold InRange mostPoints at *
  omega

/-- **In words, luck is what it is without them**, and it takes a word for each axis, or none. -/
theorem exists_drawLuckInWords? (seed : UInt64) {spread : Int} (h : InRange spread) :
    ∃ m, drawLuckInWords? seed spread =
        some (m, (Generator.ofSeed seed).advance (if 0 < spread then 6 else 0)) ∧
      ∀ a, m.get a = (drawLuck seed spread).get a := by
  have h0 : 0 ≤ max spread 0 := Int.le_max_right spread 0
  have hmost := max_le_mostPoints h
  obtain ⟨m, hm, hget⟩ := exists_drawEachInWords? h0 hmost Axis.nodup_all
    (fun a _ => Modifiers.get_empty a) (.ofSeed seed)
  have hwords : luckWords (max spread 0) Axis.all.length = if 0 < spread then 6 else 0 := by
    unfold luckWords
    simp only [lt_max_iff, lt_self_iff_false, or_false]
    rfl
  have hleast : word? 32 (-(max spread 0)) = some (-(max spread 0)) :=
    word?_of_inRange (inRange_of_bounds hmost (by omega) (by omega))
  have hlargest : word? 32 (max spread 0) = some (max spread 0) :=
    word?_of_inRange (inRange_of_bounds hmost (by omega) (by omega))
  refine ⟨m, ?_, fun a => ?_⟩
  · unfold drawLuckInWords?
    rw [Option.bind_eq_bind, hlargest, Option.bind_some, hleast, ← hwords]
    exact hm
  · rw [hget, if_pos (Axis.mem_all a), get_drawLuck]

/-! ### Reading -/

namespace AxisResults

/-- Results on axes that are read one after the other, some perhaps more than once. -/
def resolveEach (base : Modifiers) (deviation : Axis → Int) (axes : List Axis)
    (r : AxisResults) : AxisResults :=
  axes.foldl (fun r a => r.update a fun _ => .sum (base.get a) (deviation a)) r

theorem get_resolveEach (base : Modifiers) (deviation : Axis → Int) (axes : List Axis)
    (r : AxisResults) (a : Axis) :
    (resolveEach base deviation axes r).get a =
      if a ∈ axes then .sum (base.get a) (deviation a) else r.get a := by
  induction axes generalizing r with
  | nil => rw [if_neg List.not_mem_nil]; rfl
  | cons b axes ih =>
    change (resolveEach base deviation axes (r.update b _)).get a = _
    rw [ih, PerAxis.get_update]
    by_cases ha : a ∈ axes
    · rw [if_pos ha, if_pos (List.mem_cons_of_mem b ha)]
    · by_cases hb : a = b
      · subst hb
        rw [if_neg ha, if_pos rfl, if_pos List.mem_cons_self]
      · rw [if_neg ha, if_neg hb, if_neg (by simp [ha, hb])]

/-- In whatever order and however often axes are read, the results are the same. -/
theorem resolveEach_eq (base : Modifiers) (deviation : Axis → Int) {axes : List Axis}
    (h : ∀ a, a ∈ axes) (r : AxisResults) :
    resolveEach base deviation axes r = resolve base deviation := by
  ext a
  rw [get_resolveEach, if_pos (h a), get_resolve]

end AxisResults

/-! ### What is known of luck -/

/-- What is known of the luck that is drawn from a seed. -/
structure DrawsLuck (seed : UInt64) (spread : Int) : Prop where
  /-- It is at most as far from zero as the spread allows. -/
  bounds : ∀ a, -(max spread 0) ≤ (drawLuck seed spread).get a ∧
    (drawLuck seed spread).get a ≤ max spread 0
  /-- It is not the least integer, so that its size is one as well. -/
  size : ∀ a, (drawLuck seed spread).get a ≠ leastPoints ∧
    word? 32 ((drawLuck seed spread).get a).natAbs = some ((drawLuck seed spread).get a).natAbs
  /-- Every axis has a word of its own, in the order of the axes. -/
  drawn : 0 < spread → ∀ a, (drawLuck seed spread).get a =
    (((Generator.ofSeed seed).advance (Axis.all.idxOf a)).next.1.toNat %
      (2 * spread + 1).toNat : Nat) - spread
  /-- Without a spread there is no luck. -/
  none : spread ≤ 0 → ∀ a, (drawLuck seed spread).get a = 0
  /-- It takes six words or none, and nothing overflows on the way. -/
  words : ∃ m, drawLuckInWords? seed spread =
      some (m, (Generator.ofSeed seed).advance (if 0 < spread then 6 else 0)) ∧
    ∀ a, m.get a = (drawLuck seed spread).get a
  /-- It is the same in whatever order the axes are read, and however often. -/
  anyOrder : ∀ (base : Modifiers) (r : AxisResults) (axes : List Axis), (∀ a, a ∈ axes) →
    AxisResults.resolveEach base (drawLuck seed spread).get axes r =
      .resolve base (drawLuck seed spread).get

theorem drawsLuck (seed : UInt64) {spread : Int} (h : InRange spread) : DrawsLuck seed spread where
  bounds := within_drawLuck seed spread
  size a := by
    have := within_drawLuck seed spread a
    have hmost := max_le_mostPoints h
    unfold leastPoints
    unfold mostPoints at hmost
    exact ⟨by omega, word?_eq (by omega) (by omega)⟩
  drawn hpos a := by
    rw [get_drawLuck, max_eq_left hpos.le, luckAt_of_pos hpos]
  none hle a := by
    rw [get_drawLuck, max_eq_right hle, luckAt_of_zero]
  words := exists_drawLuckInWords? seed h
  anyOrder base r _ haxes := AxisResults.resolveEach_eq base _ haxes r

/-- **Luck stays within the spread, and an integer drawn between any two bounds stays between
them**, without an overflow on the way.  An outcome is judged by that luck, so that the sizes it is
judged by are integers of 32 bits. -/
theorem luck_within_spread :
    (∀ (seed : UInt64) (spread : Int), InRange spread → DrawsLuck seed spread) ∧
    (∀ (g : Generator) (low high : Int), InRange low → InRange high → low ≤ high →
      (low ≤ (g.between low high).1 ∧ (g.between low high).1 ≤ high) ∧
        g.betweenInWords? low high = some (g.between low high)) ∧
    ∀ (library : Library) (a : Attempt) (axis : Axis),
      ((a.judged library).get axis).deviation =
        (drawLuck a.derivedSeed a.action.spread).get axis :=
  ⟨fun seed _ h => drawsLuck seed h,
    fun g _ _ hl hm h => ⟨g.between_bounds h, g.betweenInWords?_eq hl hm⟩,
    fun _ _ axis => Attempt.deviation_judged axis⟩

/-! ### A gale -/

namespace Gale

/-- The widest spread there is, and a draw from all integers of 32 bits. -/
theorem widest_luck : InRange mostPoints ∧ InRange leastPoints ∧ leastPoints ≤ mostPoints ∧
    (∀ axis, -mostPoints ≤ (drawLuck 7 mostPoints).get axis ∧
      (drawLuck 7 mostPoints).get axis ≤ mostPoints) ∧
    (Generator.ofSeed 7).betweenInWords? leastPoints mostPoints =
      some ((Generator.ofSeed 7).between leastPoints mostPoints) := by
  have hmost : InRange mostPoints := by decide
  have hleast : InRange leastPoints := by decide
  have hle : leastPoints ≤ mostPoints := by decide
  obtain ⟨hluck, hbetween, -⟩ := luck_within_spread
  exact ⟨hmost, hleast, hle, (hluck 7 mostPoints hmost).bounds,
    (hbetween (.ofSeed 7) leastPoints mostPoints hleast hmost hle).2⟩

end Gale

end Reckoning
