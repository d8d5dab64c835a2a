/-!
# Exchanges

Rearranging a list by exchanging two of its elements at a time.

* `exchangeAll` makes a schedule of exchanges; `exchangeAll_perm`: nothing is lost or doubled.
-/

namespace Reckoning

/-- Exchange two elements of a list. -/
def exchange {α : Type} (xs : List α) (i j : Nat) : List α :=
  match xs[i]?, xs[j]? with
  | some a, some b => (xs.set i b).set j a
  | _, _ => xs

/-- Make exchanges one after the other. -/
def exchangeAll {α : Type} (xs : List α) (schedule : List (Nat × Nat)) : List α :=
  schedule.foldl (fun acc p => exchange acc p.1 p.2) xs

theorem exchange_perm {α : Type} (xs : List α) (i j : Nat) : (exchange xs i j).Perm xs := by
  unfold exchange
  split
  · rename_i a b ha hb
    obtain ⟨hi, rfl⟩ := List.getElem?_eq_some_iff.1 ha
    obtain ⟨hj, rfl⟩ := List.getElem?_eq_some_iff.1 hb
    have hi' : i < xs.toArray.size := by simpa using hi
    have hj' : j < xs.toArray.size := by simpa using hj
    simpa [Array.swap] using Array.perm_iff_toList_perm.1 (Array.swap_perm hi' hj')
  · exact List.Perm.refl _

theorem exchangeAll_perm {α : Type} (schedule : List (Nat × Nat)) (xs : List α) :
    (exchangeAll xs schedule).Perm xs := by
  induction schedule generalizing xs with
  | nil => exact List.Perm.refl _
  | cons p rest ih => exact (ih _).trans (exchange_perm xs p.1 p.2)

end Reckoning
