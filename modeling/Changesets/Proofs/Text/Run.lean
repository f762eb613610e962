import Mathlib.Data.List.Basic

/-!
Runs: the elements at the front of a list for which a condition holds, and what is left after them.
What is left is empty or begins with an element for which it does not hold.
-/
namespace Changesets

variable {α : Type}

theorem mem_takeWhile_dropWhile (p : α → Bool) (xs : List α) :
    (∀ x ∈ xs.takeWhile p, p x) ∧ ∀ x ∈ (xs.dropWhile p).head?, p x = false := by
  constructor
  · exact List.all_eq_true.1 List.all_takeWhile
  · intro x hx
    have h := List.head?_dropWhile_not p xs
    rw [hx] at h
    simpa using h

theorem takeWhile_append_of_head {p : α → Bool} {run left : List α}
    (hrun : ∀ x ∈ run, p x) (hleft : ∀ x ∈ left.head?, p x = false) :
    (run ++ left).takeWhile p = run ∧ (run ++ left).dropWhile p = left := by
  have stop : left.takeWhile p = [] ∧ left.dropWhile p = left := by
    cases left with
    | nil => simp
    | cons x left => simp [hleft x rfl]
  rw [List.takeWhile_append_of_pos hrun, List.dropWhile_append_of_pos hrun, stop.1, stop.2]
  simp

end Changesets
