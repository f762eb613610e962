import Changesets.Grouping.Group
import Mathlib.Data.List.Basic

/-!
When the groups of a repository have no conflict: their branches differ from each other and from the
default branch.
-/
namespace Changesets.Group

variable {repository default : String} {groups : List Group}

theorem conflictAfter?_eq_none_iff {seen : List String} :
    conflictAfter? repository default seen groups = none ↔
      (groups.map (·.branch)).Nodup ∧ (∀ group ∈ groups, group.branch ∉ seen) ∧
        ∀ group ∈ groups, group.branch ≠ default := by
  induction groups generalizing seen with
  | nil => simp [conflictAfter?]
  | cons group rest ih =>
      rw [conflictAfter?, List.map_cons, List.nodup_cons, List.forall_mem_cons,
        List.forall_mem_cons]
      by_cases hseen : group.branch ∈ seen
      · simp [hseen]
      · by_cases hdefault : group.branch = default
        · rw [if_neg hseen, if_pos hdefault]
          simp [hdefault]
        · simp only [if_neg hseen, if_neg hdefault, ih, List.mem_cons, not_or, List.mem_map,
            not_exists, not_and]
          constructor
          · intro h
            obtain ⟨hnodup, hnew, hrest⟩ := h
            exact ⟨⟨fun later hlater => (hnew later hlater).1, hnodup⟩,
              ⟨hseen, fun later hlater => (hnew later hlater).2⟩, hdefault, hrest⟩
          · intro h
            obtain ⟨⟨hfirst, hnodup⟩, ⟨-, hnew⟩, -, hrest⟩ := h
            exact ⟨hnodup, fun later hlater => ⟨hfirst later hlater, hnew later hlater⟩, hrest⟩

theorem conflict?_eq_none_iff :
    conflict? repository default groups = none ↔
      (groups.map (·.branch)).Nodup ∧ ∀ group ∈ groups, group.branch ≠ default := by
  simp [conflict?, conflictAfter?_eq_none_iff]

end Changesets.Group
