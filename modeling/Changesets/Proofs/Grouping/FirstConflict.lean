import Changesets.Proofs.Grouping.Conflict
import Changesets.Proofs.Grouping.Partition
import Mathlib.Order.Bounds.Basic

/-!
Which conflict is reported. The groups are checked in order, so the conflict is that of the first
group whose branch is taken, and it tells by whom: an earlier group counts before the default
branch. Groups without a conflict have a branch each, so that every branch of an outcome but the
default one is that of one group.
-/
namespace Changesets.Group

/-- The group at the index has the branch of an earlier group, or the default one. -/
def ClashesAt (default : String) (groups : List Group) (index : Nat) : Prop :=
  ∃ group, groups[index]? = some group ∧
    (group.branch ∈ (groups.take index).map (·.branch) ∨ group.branch = default)

/-- The conflict of the group at the index. -/
inductive ConflictAt (repository default : String) (groups : List Group) (index : Nat) :
    Conflict → Prop
  | duplicateBranch {group : Group} :
      groups[index]? = some group → group.branch ∈ (groups.take index).map (·.branch) →
        ConflictAt repository default groups index (.duplicateBranch repository group.branch)
  | defaultBranch {group : Group} :
      groups[index]? = some group → group.branch ∉ (groups.take index).map (·.branch) →
        group.branch = default →
          ConflictAt repository default groups index (.defaultBranch repository default)

section
variable {repository default : String} {groups : List Group} {index : Nat}

/-! ## One group more -/

theorem conflictAfter?_append (seen : List String) (groups later : List Group) :
    conflictAfter? repository default seen (groups ++ later) =
      (conflictAfter? repository default seen groups).or
        (conflictAfter? repository default ((groups.map (·.branch)).reverse ++ seen) later) := by
  induction groups generalizing seen with
  | nil => rfl
  | cons group groups ih =>
      simp only [List.cons_append, conflictAfter?, ih]
      split
      · rfl
      · split
        · rfl
        · simp

theorem conflict?_concat (groups : List Group) (group : Group) :
    conflict? repository default (groups ++ [group]) =
      (conflict? repository default groups).or
        (if group.branch ∈ groups.map (·.branch) then
          some (.duplicateBranch repository group.branch)
        else if group.branch = default then some (.defaultBranch repository default)
        else none) := by
  rw [conflict?, conflictAfter?_append]
  simp [conflict?, conflictAfter?]

theorem clashesAt_concat_of_lt (h : index < groups.length) (group : Group) :
    ClashesAt default (groups ++ [group]) index ↔ ClashesAt default groups index := by
  rw [ClashesAt, ClashesAt, List.getElem?_append_left h, List.take_append_of_le_length h.le]

theorem clashesAt_concat_length (groups : List Group) (group : Group) :
    ClashesAt default (groups ++ [group]) groups.length ↔
      group.branch ∈ groups.map (·.branch) ∨ group.branch = default := by
  simp [ClashesAt]

theorem ClashesAt.lt_length (h : ClashesAt default groups index) : index < groups.length := by
  obtain ⟨group, hgroup, -⟩ := h
  exact (List.getElem?_eq_some_iff.1 hgroup).1

theorem ClashesAt.concat (h : ClashesAt default groups index) (group : Group) :
    ClashesAt default (groups ++ [group]) index :=
  (clashesAt_concat_of_lt h.lt_length group).2 h

theorem ClashesAt.eq_length_of_concat {group : Group}
    (h : ClashesAt default (groups ++ [group]) index) (hnone : ¬ ClashesAt default groups index) :
    index = groups.length := by
  have hlt := h.lt_length
  rw [List.length_append, List.length_singleton] at hlt
  have hge : ¬ index < groups.length := fun hlt => hnone ((clashesAt_concat_of_lt hlt group).1 h)
  omega

theorem ConflictAt.lt_length {e : Conflict} (h : ConflictAt repository default groups index e) :
    index < groups.length := by
  cases h with
  | duplicateBranch hgroup _ | defaultBranch hgroup _ _ =>
      exact (List.getElem?_eq_some_iff.1 hgroup).1

theorem ConflictAt.concat {e : Conflict} (h : ConflictAt repository default groups index e)
    (group : Group) : ConflictAt repository default (groups ++ [group]) index e := by
  have hlt := h.lt_length
  cases h with
  | duplicateBranch hgroup hearlier =>
      refine .duplicateBranch ?_ ?_
      · rwa [List.getElem?_append_left hlt]
      · rwa [List.take_append_of_le_length hlt.le]
  | defaultBranch hgroup hearlier hdefault =>
      refine .defaultBranch ?_ ?_ hdefault
      · rwa [List.getElem?_append_left hlt]
      · rwa [List.take_append_of_le_length hlt.le]

theorem ConflictAt.unique {e e' : Conflict} (h : ConflictAt repository default groups index e)
    (h' : ConflictAt repository default groups index e') : e = e' := by
  cases h with
  | duplicateBranch hgroup hearlier =>
      cases h' with
      | duplicateBranch hgroup' _ =>
          obtain rfl := Option.some.inj (hgroup.symm.trans hgroup')
          rfl
      | defaultBranch hgroup' hnew _ =>
          obtain rfl := Option.some.inj (hgroup.symm.trans hgroup')
          exact absurd hearlier hnew
  | defaultBranch hgroup hnew hdefault =>
      cases h' with
      | duplicateBranch hgroup' hearlier =>
          obtain rfl := Option.some.inj (hgroup.symm.trans hgroup')
          exact absurd hearlier hnew
      | defaultBranch _ _ _ => rfl

/-! ## The first clash -/

/-- What the check of the groups comes to: no group clashes, or the first that does is reported. -/
inductive Checked (repository default : String) (groups : List Group) : Option Conflict → Prop
  | passed : (∀ index, ¬ ClashesAt default groups index) → Checked repository default groups none
  | refused {index : Nat} {e : Conflict} :
      IsLeast {index | ClashesAt default groups index} index →
        ConflictAt repository default groups index e → Checked repository default groups (some e)

theorem Checked.concat_of_refused {e : Conflict} (h : Checked repository default groups (some e))
    (group : Group) : Checked repository default (groups ++ [group]) (some e) := by
  cases h with
  | refused hleast he =>
      refine .refused ⟨hleast.1.concat group, fun later hlater => ?_⟩ (he.concat group)
      by_cases hclash : ClashesAt default groups later
      · exact hleast.2 hclash
      · rw [ClashesAt.eq_length_of_concat hlater hclash]
        exact hleast.1.lt_length.le

theorem Checked.concat_of_passed (h : Checked repository default groups none) (group : Group) :
    Checked repository default (groups ++ [group])
      (if group.branch ∈ groups.map (·.branch) then
        some (.duplicateBranch repository group.branch)
      else if group.branch = default then some (.defaultBranch repository default)
      else none) := by
  cases h with
  | passed hnone =>
      -- only the new group can clash
      have hnew : ∀ index, ClashesAt default (groups ++ [group]) index → index = groups.length :=
        fun index hclash => hclash.eq_length_of_concat (hnone index)
      have hleast (hclash : group.branch ∈ groups.map (·.branch) ∨ group.branch = default) :
          IsLeast {index | ClashesAt default (groups ++ [group]) index} groups.length :=
        ⟨(clashesAt_concat_length groups group).2 hclash, fun index h => (hnew index h).ge⟩
      have hgroup : (groups ++ [group])[groups.length]? = some group := by simp
      have htake : (groups ++ [group]).take groups.length = groups := by simp
      split
      · next hmem =>
          refine .refused (hleast (.inl hmem)) (.duplicateBranch hgroup ?_)
          rwa [htake]
      · next hmem =>
          split
          · next hdefault =>
              refine .refused (hleast (.inr hdefault)) (.defaultBranch hgroup ?_ hdefault)
              rwa [htake]
          · next hdefault =>
              refine .passed fun index hclash => ?_
              obtain rfl := hnew index hclash
              rcases (clashesAt_concat_length groups group).1 hclash with hmem' | hdefault'
              · exact hmem hmem'
              · exact hdefault hdefault'

theorem checked_conflict? (repository default : String) (groups : List Group) :
    Checked repository default groups (conflict? repository default groups) := by
  induction groups using List.reverseRecOn with
  | nil => exact .passed fun index h => absurd h.lt_length (Nat.not_lt_zero index)
  | append_singleton groups group ih =>
      rw [conflict?_concat]
      cases h : conflict? repository default groups with
      | none => exact (h ▸ ih).concat_of_passed group
      | some e => exact (h ▸ ih).concat_of_refused group

theorem conflict?_eq_some_iff {e : Conflict} :
    conflict? repository default groups = some e ↔
      ∃ index, IsLeast {index | ClashesAt default groups index} index ∧
        ConflictAt repository default groups index e := by
  have hchecked := checked_conflict? repository default groups
  constructor
  · intro h
    rw [h] at hchecked
    cases hchecked with
    | refused hleast he => exact ⟨_, hleast, he⟩
  · intro h
    obtain ⟨index, hleast, he⟩ := h
    generalize conflict? repository default groups = reported at hchecked
    cases hchecked with
    | passed hnone => exact absurd hleast.1 (hnone index)
    | refused hleast' he' =>
        obtain rfl := hleast'.unique hleast
        rw [he'.unique he]

/-- A group with the default branch clashes itself, before any other can repeat its branch. -/
theorem ConflictAt.branch_ne_default {name branch : String}
    (hleast : IsLeast {index | ClashesAt default groups index} index)
    (h : ConflictAt repository default groups index (.duplicateBranch name branch)) :
    branch ≠ default := by
  cases h with
  | @duplicateBranch group hgroup hearlier =>
      intro hdefault
      obtain ⟨earlier, hmem, hbranch⟩ := List.mem_map.1 hearlier
      obtain ⟨place, hplace, hget⟩ := List.mem_take_iff_getElem.1 hmem
      rw [Nat.lt_min] at hplace
      have hclash : ClashesAt default groups place :=
        ⟨earlier, hget ▸ List.getElem?_eq_getElem hplace.2, .inr (hbranch.trans hdefault)⟩
      exact absurd (hleast.2 hclash) (Nat.not_le_of_lt hplace.1)

end

/-! ## Branches of an outcome -/

theorem exists_mem_of_route_ne {groups : List Group} {default path : String}
    (h : route groups default path ≠ default) :
    ∃ group ∈ groups, group.branch = route groups default path := by
  have hroute := routesTo_route groups default path
  generalize route groups default path = branch at h hroute
  cases hroute with
  | uncovered _ | masked _ _ _ _ => exact absurd rfl h
  | grouped hgroups _ _ _ => exact ⟨_, by simp [hgroups], rfl⟩

theorem existsUnique_branch {groups : List Group} {branch : String}
    (hnodup : (groups.map (·.branch)).Nodup) (h : ∃ group ∈ groups, group.branch = branch) :
    ∃! index : Fin groups.length, groups[index].branch = branch := by
  obtain ⟨group, hgroup, rfl⟩ := h
  obtain ⟨index, hindex⟩ := List.mem_iff_get.1 hgroup
  have hbranch : groups[index].branch = group.branch := congrArg Group.branch hindex
  have hdiffer := List.pairwise_iff_get.1 (List.pairwise_map.1 hnodup)
  refine ⟨index, hbranch, fun other hother => ?_⟩
  rcases Nat.lt_trichotomy other index with hlt | heq | hgt
  · exact absurd (hother.trans hbranch.symm) (hdiffer other index hlt)
  · exact Fin.ext heq
  · exact absurd (hbranch.trans hother.symm) (hdiffer index other hgt)

/-- The groups pass the check exactly if their branches differ from each other and from the default
one. Otherwise the conflict of the first group that clashes is reported: a repeated branch, which is
never the default one, or else the default branch. Once the groups have passed, every branch that a
diff is split over, but the default one, is that of exactly one group. -/
theorem conflict?_reports_first (repository default : String) (groups : List Group) :
    (conflict? repository default groups = none ↔
      (groups.map (·.branch)).Nodup ∧ ∀ group ∈ groups, group.branch ≠ default) ∧
    (∀ e, conflict? repository default groups = some e ↔
      ∃ index, IsLeast {index | ClashesAt default groups index} index ∧
        ConflictAt repository default groups index e) ∧
    (∀ name branch, conflict? repository default groups = some (.duplicateBranch name branch) →
      branch ≠ default) ∧
    (conflict? repository default groups = none → ∀ text files, Diff.parse text = .ok files →
      ∃ diffs, BranchDiffs.partition groups default text = .ok diffs ∧
        ∀ entry ∈ diffs.entries, entry.branch ≠ default →
          ∃! index : Fin groups.length, groups[index].branch = entry.branch) := by
  refine ⟨conflict?_eq_none_iff, fun _ => conflict?_eq_some_iff, fun name branch h => ?_,
    fun h text files hfiles => ⟨_, partition_eq_ok hfiles groups default, ?_⟩⟩
  · obtain ⟨index, hleast, he⟩ := conflict?_eq_some_iff.1 h
    exact he.branch_ne_default hleast
  · intro entry hentry hne
    obtain ⟨branch, hbranch, rfl⟩ := List.mem_map.1 hentry
    obtain ⟨file, -, rfl⟩ := (mem_branchesOf.1 hbranch).resolve_left hne
    exact existsUnique_branch (conflict?_eq_none_iff.1 h).1 (exists_mem_of_route_ne hne)

/-- The default branch is named before `topic` is repeated. -/
example : conflict? "app" "main" [⟨"", "a", "topic"⟩, ⟨"", "b", "main"⟩, ⟨"", "c", "topic"⟩] =
    some (.defaultBranch "app" "main") := by decide

end Changesets.Group
