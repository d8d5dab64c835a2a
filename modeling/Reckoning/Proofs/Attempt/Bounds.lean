import Reckoning.Proofs.Attempt.Addends
import Reckoning.Proofs.Attempt.Participation
import Reckoning.Proofs.Content.Limits
import Reckoning.Proofs.Content.Magnitude

/-!
# How much can be added

In a library within its limits every contribution is small: a useless bit adds a bonus and a
penalty at once, everything else adds the points of a single definition.

* `Attempt.within_participants` and `Attempt.degradations_bounds` bound what is added.
* `Attempt.sum_addends_bounds`: fewer than a million contributions never saturate.
-/

namespace Reckoning

/-- The most that one contribution adds to an axis. -/
def contributionLimit : Int := 2 * contentLimit

namespace Modifiers

variable {m : Modifiers}

theorem Within.contribution (h : m.Within contentLimit) : m.Within contributionLimit := by
  intro a
  have := h a
  unfold contributionLimit contentLimit at *
  omega

/-- Half of the points, taken back, are no more points. -/
theorem Within.applyTo {limit : Int} (h : m.Within limit) (e : Effect) :
    (e.applyTo m).Within limit := by
  cases e with
  | amplify => exact h
  | dampen =>
    intro a
    have hd : (Effect.dampen.applyTo m).get a = -((m.get a).tdiv 2) :=
      get_mapValues (f := fun n => -(n.tdiv 2)) rfl m a
    have hn : ((m.get a).tdiv 2).natAbs = (m.get a).natAbs / 2 := Int.natAbs_tdiv _ 2
    have := h a
    rw [hd]
    omega

end Modifiers

/-- Bonus and penalty of a useless bit add up exactly. -/
theorem UselessBit.get_combined {b : UselessBit} (hb : b.bonus.Within contentLimit)
    (hp : b.penalty.Within contentLimit) (a : Axis) :
    b.combined.get a = b.bonus.get a + b.penalty.get a := by
  have hb := hb a
  have hp := hp a
  have hr : ∀ n : Int, -contributionLimit ≤ n → n ≤ contributionLimit → InRange n := by
    unfold contributionLimit contentLimit InRange leastPoints mostPoints
    omega
  unfold contributionLimit contentLimit at *
  unfold combined
  rw [Modifiers.get_merge (hr _ (by omega) (by omega)),
    saturate_of_inRange (hr _ (by omega) (by omega))]

theorem UselessBit.within_combined {b : UselessBit} (hb : b.bonus.Within contentLimit)
    (hp : b.penalty.Within contentLimit) : b.combined.Within contributionLimit := by
  intro a
  have h := get_combined hb hp a
  have hb := hb a
  have hp := hp a
  unfold contributionLimit
  omega

namespace Attempt

variable {library : Library} {a : Attempt}

theorem within_traits (hl : library.InLimits) {s : Source} (hs : s ∈ a.traits library) :
    s.modifiers.Within contributionLimit := by
  simp only [traits, List.mem_append, List.mem_map] at hs
  rcases hs with (⟨q, hq, rfl⟩ | ⟨f, hf, rfl⟩) | ⟨b, hb, rfl⟩
  · have hq : (Definition.quirk q).InLimits := hl _ (mem_of_mem_quirks hq)
    exact hq.contribution
  · have hf : (Definition.failing f).InLimits := hl _ (mem_of_mem_failings hf)
    exact hf.1.contribution
  · have hb : (Definition.uselessBit b).InLimits := hl _ (mem_of_mem_uselessBits hb)
    exact UselessBit.within_combined hb.1 hb.2

variable (hl : library.InLimits) (ha : a.action ∈ library.actions)

include hl ha

theorem within_gathered {c : Contribution} (hc : c ∈ a.gathered library) :
    c.modifiers.Within contributionLimit := by
  simp only [gathered, List.mem_append, List.mem_map] at hc
  rcases hc with ((⟨s, hs, rfl⟩ | ⟨q, hq, rfl⟩) | ⟨q, hq, rfl⟩) | hc
  · exact within_traits hl (List.mem_filter.1 hs).1
  · have hq : (Definition.itemQuirk q).InLimits := hl _ (mem_of_mem_itemQuirks hq)
    exact hq.contribution
  · have hq : (Definition.environmentalQuirk q).InLimits :=
      hl _ (mem_of_mem_environmentalQuirks hq)
    exact hq.contribution
  · unfold lack at hc
    split_ifs at hc
    · have ha : (Definition.action a.action).InLimits := hl _ ha
      rw [List.mem_singleton.1 hc]
      exact ha.1.contribution
    · exact absurd hc List.not_mem_nil

theorem within_participants {c : Contribution} (hc : c ∈ a.participants library) :
    c.modifiers.Within contributionLimit := by
  unfold participants at hc
  -- gathered at once, added by an interaction, or added after the outcome
  rw [contributions_eq, List.mem_append, List.mem_append] at hc
  rcases hc with (hc | hc) | hc
  · exact within_gathered hl ha hc
  · obtain ⟨s, -, hp⟩ := List.mem_filterMap.1 hc
    obtain ⟨q, hq, -, -, rfl⟩ := (pairing?_eq_some library a).1 hp
    have hq : (Definition.quirk q).InLimits := hl _ (mem_of_mem_quirks hq)
    exact hq.contribution.applyTo _
  · obtain ⟨s, hs, rfl⟩ := List.mem_map.1 hc
    exact within_traits hl (mem_late.1 hs).1

omit ha in
theorem degradations_bounds {n : Int} (hn : n ∈ a.degradations library) :
    -contributionLimit ≤ n ∧ n ≤ contributionLimit := by
  unfold degradations at hn
  split_ifs at hn
  · exact absurd hn List.not_mem_nil
  obtain ⟨f, hf, rfl⟩ := List.mem_map.1 hn
  have hf : (Definition.failing f).InLimits :=
    hl _ (mem_of_mem_failings (List.mem_filter.1 hf).1)
  obtain ⟨-, h0, hlm, hm⟩ := hf
  have := Failing.magnitudeFor_bounds hlm a.character.attributes
  unfold contributionLimit contentLimit at *
  omega

theorem addends_bounds (axis : Axis) {n : Int} (hn : n ∈ a.addends library axis) :
    -contributionLimit ≤ n ∧ n ≤ contributionLimit := by
  rcases List.mem_append.1 hn with hn | hn
  · obtain ⟨c, hc, rfl⟩ := List.mem_map.1 hn
    exact within_participants hl ha hc axis
  · split_ifs at hn
    · exact degradations_bounds hl hn
    · exact absurd hn List.not_mem_nil

/-- **Fewer than a million contributions never leave the range**, with the luck or without it. -/
theorem sum_addends_inRange
    (hn : (a.participants library).length + (a.degradations library).length < 1000000)
    (axis : Axis) {ns : List Int} (hp : ns <+: a.addends library axis) :
    InRange ns.sum ∧ InRange (ns.sum + a.luck.get axis) := by
  have hlen : ((a.addends library axis).length : Int) < 1000000 := by
    unfold addends
    rw [List.length_append, List.length_map]
    split_ifs
    · exact_mod_cast hn
    · simp only [List.length_nil]
      omega
  -- a million times the largest contribution leaves room for one draw of luck
  have hsum := prefix_sum_bounds (by decide) (fun n => addends_bounds hl ha axis) hp
  have hluck : -contentLimit ≤ a.luck.get axis ∧ a.luck.get axis ≤ contentLimit := by
    have hs : (Definition.action a.action).InLimits := hl _ ha
    obtain ⟨-, -, -, -, -, h0, h1⟩ := hs
    have := drawLuck_bounds a.derivedSeed h0 axis
    unfold luck
    omega
  unfold contributionLimit contentLimit at *
  unfold InRange leastPoints mostPoints
  omega

end Attempt

end Reckoning
