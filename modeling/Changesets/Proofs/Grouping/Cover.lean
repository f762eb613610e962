import Changesets.Proofs.Diff.Regroup
import Changesets.Proofs.Grouping.Partition
import Mathlib.Algebra.Order.BigOperators.Group.List
import Mathlib.Algebra.Order.Group.Nat

/-!
What the diffs of the branches are read as. Each section of the combined diff is sent to one branch,
but a section that has no header lines takes in a plain one that comes right after it on its branch.
The branches together have the sections of the combined diff exactly if that happens on none.
-/
namespace Changesets

/-! ## One branch for each section -/

theorem filter_routeOf_cons (groups : List Group) (default branch : String)
    (branches : List String) (files : List Diff.File) (h : branch ∉ branches) :
    (sentTo groups default branch files ++
      files.filter fun file => Group.routeOf groups default file ∈ branches).Perm
      (files.filter fun file => Group.routeOf groups default file ∈ branch :: branches) := by
  have hsplit := List.filter_append_perm (fun file => Group.routeOf groups default file = branch)
    (files.filter fun file => Group.routeOf groups default file ∈ branch :: branches)
  rw [List.filter_filter, List.filter_filter] at hsplit
  convert hsplit using 2
  · refine List.filter_congr fun file _ => ?_
    by_cases heq : Group.routeOf groups default file = branch <;> simp [heq]
  · refine List.filter_congr fun file _ => ?_
    by_cases heq : Group.routeOf groups default file = branch <;> simp [heq, h]

theorem flatMap_sentTo_perm_filter (groups : List Group) (default : String)
    {branches : List String} (files : List Diff.File) (h : branches.Nodup) :
    (branches.flatMap fun branch => sentTo groups default branch files).Perm
      (files.filter fun file => Group.routeOf groups default file ∈ branches) := by
  induction branches with
  | nil => simp
  | cons branch branches ih =>
      obtain ⟨hbranch, hnodup⟩ := List.nodup_cons.1 h
      rw [List.flatMap_cons]
      exact ((ih hnodup).append_left _).trans
        (filter_routeOf_cons groups default branch branches files hbranch)

/-- Each section is sent to one of the branches, and to no other. -/
theorem flatMap_sentTo_perm (groups : List Group) (default : String) (files : List Diff.File) :
    ((branchesOf groups default files).flatMap fun branch =>
      sentTo groups default branch files).Perm files := by
  have hall : (files.filter fun file =>
      Group.routeOf groups default file ∈ branchesOf groups default files) = files := by
    rw [List.filter_eq_self]
    intro file hfile
    simpa using mem_branchesOf.2 (.inr ⟨file, hfile, rfl⟩)
  have hperm := flatMap_sentTo_perm_filter groups default files
    (nodup_branchesOf groups default files)
  rwa [hall] at hperm

/-! ## Reading the branches back -/

/-- What the diff of each branch is read as. -/
theorem parse_entries {text : String} {files : List Diff.File} (h : Diff.parse text = .ok files)
    (groups : List Group) (default : String) :
    ∀ entry ∈ (branchesOf groups default files).map (entryOf groups default files),
      Diff.parse entry.diff = .ok (Diff.regroup (sentTo groups default entry.branch files)) := by
  rw [List.forall_mem_map]
  intro branch _
  apply Diff.parse_unlines_eq_regroup
  intro file hfile
  exact Diff.readable_of_parse h file (List.mem_of_mem_filter hfile)

theorem length_flatMap_regroup_lt (sent : String → List Diff.File) {branches : List String}
    (h : ∃ branch ∈ branches, ¬ Diff.Separated (sent branch)) :
    (branches.flatMap fun branch => Diff.regroup (sent branch)).length <
      (branches.flatMap sent).length := by
  rw [List.length_flatMap, List.length_flatMap]
  apply List.sum_lt_sum
  · exact fun branch _ => Diff.length_regroup_le (sent branch)
  · obtain ⟨branch, hbranch, hsep⟩ := h
    exact ⟨branch, hbranch, Diff.length_regroup_lt hsep⟩

/-- Sections that were merged are fewer, so no order of them is that of the combined diff. -/
theorem flatMap_regroup_perm_iff (groups : List Group) (default : String)
    (files : List Diff.File) :
    (((branchesOf groups default files).map (entryOf groups default files)).flatMap fun entry =>
        Diff.regroup (sentTo groups default entry.branch files)).Perm files ↔
      ∀ entry ∈ (branchesOf groups default files).map (entryOf groups default files),
        Diff.Separated (sentTo groups default entry.branch files) := by
  have hcover := flatMap_sentTo_perm groups default files
  rw [List.flatMap_map, List.forall_mem_map]
  constructor
  · intro hperm branch hbranch
    by_contra hsep
    have hlt := length_flatMap_regroup_lt (fun branch => sentTo groups default branch files)
      ⟨branch, hbranch, hsep⟩
    rw [hcover.length_eq] at hlt
    exact Nat.ne_of_lt hlt hperm.length_eq
  · intro hsep
    have hread : ((branchesOf groups default files).flatMap fun branch =>
          Diff.regroup (sentTo groups default branch files)) =
        (branchesOf groups default files).flatMap fun branch =>
          sentTo groups default branch files :=
      List.flatMap_congr fun branch hbranch =>
        Diff.regroup_eq_self_iff.2 (hsep branch hbranch)
    exact hread ▸ hcover

/-- A combined diff is split into diffs that can be read again. The sections of a branch come back
as they were if and only if none without header lines stands right before a plain one on that
branch, and the branches together have the sections of the combined diff, in some order, if and only
if that holds for all of them. -/
theorem cover_iff_separated (groups : List Group) (default text : String) {diffs : BranchDiffs}
    (h : BranchDiffs.partition groups default text = .ok diffs) :
    ∃ files, Diff.parse text = .ok files ∧
      (∀ file branch, Group.routeOf groups default file = branch ↔
        Group.RoutesTo groups default file.effectivePath branch) ∧
      ∃ read : BranchDiff → List Diff.File,
        (∀ entry ∈ diffs.entries, Diff.parse entry.diff = .ok (read entry)) ∧
        (∀ entry ∈ diffs.entries, read entry = sentTo groups default entry.branch files ↔
          Diff.Separated (sentTo groups default entry.branch files)) ∧
        ((diffs.entries.flatMap read).Perm files ↔
          ∀ entry ∈ diffs.entries, Diff.Separated (sentTo groups default entry.branch files)) := by
  cases hparse : Diff.parse text with
  | error e => simp [BranchDiffs.partition, hparse] at h
  | ok files =>
      obtain rfl := Except.ok.inj ((partition_eq_ok hparse groups default).symm.trans h)
      exact ⟨files, rfl, fun _ _ => Group.route_eq_iff,
        fun entry => Diff.regroup (sentTo groups default entry.branch files),
        parse_entries hparse groups default, fun _ _ => Diff.regroup_eq_self_iff,
        flatMap_regroup_perm_iff groups default files⟩

/-- A change of mode, which has no header lines, a new file and a plain section. -/
def modeThenPlain : String :=
  Text.unlines
    ["diff --git a/api/x b/api/x", "old mode 100644", "new mode 100755",
      "diff --git a/web/y b/web/y", "new file mode 100644", "--- /dev/null", "+++ b/web/y",
      "@@ -0,0 +1,1 @@", "+y",
      "--- a/api/z", "+++ b/api/z", "@@ -1,1 +1,1 @@", "-z", "+Z"]

def modeThenPlainSections : List Diff.File :=
  [{ extended := ["diff --git a/api/x b/api/x", "old mode 100644", "new mode 100755"]
     old := ⟨"a/api/x", none⟩
     new := ⟨"b/api/x", none⟩ },
   { extended := ["diff --git a/web/y b/web/y", "new file mode 100644"]
     old := ⟨"/dev/null", none⟩
     new := ⟨"b/web/y", none⟩
     hasHeader := true
     hunks := [⟨⟨⟨0, 0⟩, ⟨1, 1⟩, ""⟩, ["+y"]⟩] },
   { old := ⟨"a/api/z", none⟩
     new := ⟨"b/api/z", none⟩
     hasHeader := true
     hunks := [⟨⟨⟨1, 1⟩, ⟨1, 1⟩, ""⟩, ["-z", "+Z"]⟩] }]

theorem parse_modeThenPlain : Diff.parse modeThenPlain = .ok modeThenPlainSections := by
  have hlines : modeThenPlain = Text.unlines (modeThenPlainSections.flatMap Diff.File.toLines) :=
    congrArg Text.unlines (by decide +kernel)
  rw [hlines]
  exact Diff.parse_unlines (by decide +kernel) (by decide +kernel) (by decide +kernel)

/-- With the plain section on a branch of its own, the branches together have all sections. -/
theorem cover_modeApartFromPlain :
    ∃ diffs files, BranchDiffs.partition [⟨"", "api/z", "plain"⟩] "main" modeThenPlain = .ok diffs ∧
      Diff.parse modeThenPlain = .ok files ∧
      ∃ read : BranchDiff → List Diff.File,
        (∀ entry ∈ diffs.entries, Diff.parse entry.diff = .ok (read entry)) ∧
          (diffs.entries.flatMap read).Perm files := by
  have hpartition := partition_eq_ok parse_modeThenPlain [⟨"", "api/z", "plain"⟩] "main"
  obtain ⟨files, hfiles, -, read, hread, -, hcover⟩ := cover_iff_separated _ _ _ hpartition
  refine ⟨_, files, hpartition, hfiles, read, hread, hcover.2 ?_⟩
  obtain rfl := Except.ok.inj (parse_modeThenPlain.symm.trans hfiles)
  rw [List.forall_mem_map]
  decide +kernel

/-- With the new file on a branch of its own, the change of mode comes right before the plain
section. The two are read as one, so the branches together have fewer sections. -/
theorem not_cover_modeThenPlain :
    ∃ diffs files, BranchDiffs.partition [⟨"", "web/", "web"⟩] "main" modeThenPlain = .ok diffs ∧
      Diff.parse modeThenPlain = .ok files ∧
      ∃ read : BranchDiff → List Diff.File,
        (∀ entry ∈ diffs.entries, Diff.parse entry.diff = .ok (read entry)) ∧
        (¬ ∀ entry ∈ diffs.entries,
          read entry = sentTo [⟨"", "web/", "web"⟩] "main" entry.branch files) ∧
        ¬ (diffs.entries.flatMap read).Perm files := by
  have hmerged : ¬ ∀ entry ∈ (branchesOf [⟨"", "web/", "web"⟩] "main" modeThenPlainSections).map
        (entryOf [⟨"", "web/", "web"⟩] "main" modeThenPlainSections),
      Diff.Separated (sentTo [⟨"", "web/", "web"⟩] "main" entry.branch modeThenPlainSections) := by
    rw [List.forall_mem_map]
    decide +kernel
  refine ⟨_, _, partition_eq_ok parse_modeThenPlain _ _, parse_modeThenPlain, _,
    parse_entries parse_modeThenPlain _ _, fun hall => ?_, fun hperm => ?_⟩
  · exact hmerged fun entry hentry => Diff.regroup_eq_self_iff.1 (hall entry hentry)
  · exact hmerged ((flatMap_regroup_perm_iff _ _ _).1 hperm)

/-- Reading the diff of a branch never fails, and gives the sections that were sent to it if and
only if none without header lines, binary or not, stands right before a plain one among them. For a
diff that is not split this says when reading undoes writing. -/
theorem parse_entry_eq_iff (groups : List Group) (default text : String) {files : List Diff.File}
    (h : Diff.parse text = .ok files) :
    (∃ diffs, BranchDiffs.partition groups default text = .ok diffs ∧
      ∀ entry ∈ diffs.entries, ∃ read, Diff.parse entry.diff = .ok read ∧
        (read = sentTo groups default entry.branch files ↔
          Diff.Separated (sentTo groups default entry.branch files))) ∧
      ∃ printed read, Diff.print files = .ok printed ∧ Diff.parse printed = .ok read ∧
        (read = files ↔ Diff.Separated files) := by
  constructor
  · refine ⟨_, partition_eq_ok h groups default, fun entry hentry => ?_⟩
    exact ⟨_, parse_entries h groups default entry hentry, Diff.regroup_eq_self_iff⟩
  · have hread := Diff.readable_of_parse h
    refine ⟨_, _, Diff.print_eq_ok fun file hfile hunk hhunk => ?_,
      Diff.parse_unlines_eq_regroup hread, Diff.regroup_eq_self_iff⟩
    exact ((hread file hfile).1.hunks hunk hhunk).consistent

theorem parse_entry_modeThenPlain :
    ∃ files, Diff.parse modeThenPlain = .ok files ∧
      ¬ Diff.Separated (sentTo [⟨"", "web/", "web"⟩] "main" "main" files) ∧
      ∃ diffs, BranchDiffs.partition [⟨"", "web/", "web"⟩] "main" modeThenPlain = .ok diffs ∧
        ∀ entry ∈ diffs.entries, ∃ read, Diff.parse entry.diff = .ok read ∧
          (read = sentTo [⟨"", "web/", "web"⟩] "main" entry.branch files ↔
            Diff.Separated (sentTo [⟨"", "web/", "web"⟩] "main" entry.branch files)) :=
  ⟨_, parse_modeThenPlain, by decide +kernel,
    (parse_entry_eq_iff [⟨"", "web/", "web"⟩] "main" _ parse_modeThenPlain).1⟩

end Changesets
