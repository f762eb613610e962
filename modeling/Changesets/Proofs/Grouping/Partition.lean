import Changesets.Grouping.Partition
import Changesets.Proofs.Diff.RoundTrip
import Changesets.Proofs.Fallible
import Changesets.Proofs.Grouping.Route
import Mathlib.Data.List.Nodup

/-!
What splitting a diff gives. Adding one file after the other to the files of its branch is shown to
be a filter for each branch, with the branches in the order of their first files.
-/
namespace Changesets

/-- The branch that a section is sent to. -/
def Group.routeOf (groups : List Group) (default : String) (file : Diff.File) : String :=
  Group.route groups default file.effectivePath

/-- The branches of an outcome: the default one, and then the others as their first files come. -/
def branchesOf (groups : List Group) (default : String) (files : List Diff.File) : List String :=
  default :: ((files.map (Group.routeOf groups default)).filter (· ≠ default)).eraseDups

/-- The sections that are sent to a branch, in order. -/
def sentTo (groups : List Group) (default branch : String) (files : List Diff.File) :
    List Diff.File :=
  files.filter fun file => Group.routeOf groups default file = branch

theorem mem_sentTo {groups : List Group} {default branch : String} {files : List Diff.File}
    {file : Diff.File} :
    file ∈ sentTo groups default branch files ↔
      file ∈ files ∧ Group.routeOf groups default file = branch := by
  simp [sentTo]

/-! ## Distinct branches -/

theorem nodup_eraseDups (names : List String) : names.eraseDups.Nodup := by
  match names with
  | [] => simp
  | name :: names =>
      rw [List.eraseDups_cons, List.nodup_cons, List.mem_eraseDups]
      exact ⟨by simp, nodup_eraseDups _⟩
termination_by names.length
decreasing_by exact Nat.lt_succ_of_le (List.length_filter_le _ _)

theorem eraseDups_concat (names : List String) (name : String) :
    (names ++ [name]).eraseDups =
      if name ∈ names then names.eraseDups else names.eraseDups ++ [name] := by
  rw [List.eraseDups_append]
  split <;> simp_all [List.removeAll, List.eraseDups_cons]

theorem branchesOf_eq_eraseDups (groups : List Group) (default : String)
    (files : List Diff.File) :
    branchesOf groups default files =
      (default :: files.map (Group.routeOf groups default)).eraseDups := by
  rw [branchesOf, List.eraseDups_cons]
  congr 3
  funext name
  by_cases h : name = default <;> simp [h]

theorem nodup_branchesOf (groups : List Group) (default : String) (files : List Diff.File) :
    (branchesOf groups default files).Nodup := by
  rw [branchesOf_eq_eraseDups]
  exact nodup_eraseDups _

theorem mem_branchesOf {groups : List Group} {default branch : String} {files : List Diff.File} :
    branch ∈ branchesOf groups default files ↔
      branch = default ∨ ∃ file ∈ files, Group.routeOf groups default file = branch := by
  simp [branchesOf_eq_eraseDups]

/-! ## The files of each branch -/

/-- Files by branch, as a filter for each branch. -/
def sentByBranch (groups : List Group) (default : String) (branches : List String)
    (files : List Diff.File) : List (String × List Diff.File) :=
  branches.map fun branch => (branch, sentTo groups default branch files)

section
variable {groups : List Group} {default : String}

theorem sentTo_concat_self (file : Diff.File) (files : List Diff.File) :
    sentTo groups default (Group.routeOf groups default file) (files ++ [file]) =
      sentTo groups default (Group.routeOf groups default file) files ++ [file] := by
  simp [sentTo]

theorem sentTo_concat_of_ne {branch : String} {file : Diff.File}
    (h : Group.routeOf groups default file ≠ branch) (files : List Diff.File) :
    sentTo groups default branch (files ++ [file]) = sentTo groups default branch files := by
  simp [sentTo, h]

theorem sentByBranch_concat_of_notMem {branches : List String} {file : Diff.File}
    (h : Group.routeOf groups default file ∉ branches) (files : List Diff.File) :
    sentByBranch groups default branches (files ++ [file]) =
      sentByBranch groups default branches files :=
  List.map_congr_left fun branch hbranch => by
    rw [sentTo_concat_of_ne fun heq => h (heq ▸ hbranch)]

theorem addToBranch_sentByBranch {branches : List String} {files : List Diff.File}
    {file : Diff.File} (hnodup : branches.Nodup)
    (hnew : Group.routeOf groups default file ∉ branches →
      sentTo groups default (Group.routeOf groups default file) files = []) :
    addToBranch (Group.routeOf groups default file) file
        (sentByBranch groups default branches files) =
      sentByBranch groups default
        (if Group.routeOf groups default file ∈ branches then branches
          else branches ++ [Group.routeOf groups default file])
        (files ++ [file]) := by
  induction branches with
  | nil =>
      have hnone := hnew List.not_mem_nil
      simp [sentByBranch, addToBranch, sentTo_concat_self, hnone]
  | cons branch branches ih =>
      obtain ⟨hbranch, hnodup⟩ := List.nodup_cons.1 hnodup
      by_cases heq : branch = Group.routeOf groups default file
      · -- the branch has its place: no later one is the same, so those keep their files
        subst heq
        have hrest := sentByBranch_concat_of_notMem hbranch files
        simp only [sentByBranch] at hrest
        simp [sentByBranch, addToBranch, sentTo_concat_self, hrest]
      · have hkeep := sentTo_concat_of_ne (Ne.symm heq) files
        have ih := ih hnodup fun hmem => hnew (by simp [Ne.symm heq, hmem])
        simp only [sentByBranch] at ih
        by_cases hmem : Group.routeOf groups default file ∈ branches
        · simp [sentByBranch, addToBranch, heq, hkeep, ih, hmem]
        · simp [sentByBranch, addToBranch, heq, Ne.symm heq, hkeep, ih, hmem]

/-- Adding the files `todo` to the branches of the files `done`. -/
theorem foldl_addToBranch (done todo : List Diff.File) :
    todo.foldl (fun byBranch file =>
        addToBranch (Group.route groups default file.effectivePath) file byBranch)
        (sentByBranch groups default (branchesOf groups default done) done) =
      sentByBranch groups default (branchesOf groups default (done ++ todo)) (done ++ todo) := by
  induction todo generalizing done with
  | nil => simp
  | cons file todo ih =>
      have hnew : Group.routeOf groups default file ∉ branchesOf groups default done →
          sentTo groups default (Group.routeOf groups default file) done = [] := by
        intro hmem
        rw [sentTo, List.filter_eq_nil_iff]
        intro other hother
        simpa using fun heq => hmem (mem_branchesOf.2 (.inr ⟨other, hother, heq⟩))
      have hstep := addToBranch_sentByBranch (nodup_branchesOf groups default done) hnew
      have hbranches : branchesOf groups default (done ++ [file]) =
          if Group.routeOf groups default file ∈ branchesOf groups default done then
            branchesOf groups default done
          else branchesOf groups default done ++ [Group.routeOf groups default file] := by
        simp only [branchesOf_eq_eraseDups, List.mem_eraseDups]
        rw [← eraseDups_concat]
        simp
      rw [← hbranches] at hstep
      have ih := ih (done ++ [file])
      rw [List.append_assoc, List.singleton_append] at ih
      rw [List.foldl_cons, ← ih, ← hstep]
      rfl

theorem filesByBranch_eq (files : List Diff.File) :
    filesByBranch groups default files =
      sentByBranch groups default (branchesOf groups default files) files :=
  foldl_addToBranch [] files

end

/-! ## The outcome -/

theorem print_sentTo {text : String} {files : List Diff.File} (h : Diff.parse text = .ok files)
    (groups : List Group) (default branch : String) :
    Diff.print (sentTo groups default branch files) =
      .ok (Text.unlines ((sentTo groups default branch files).flatMap Diff.File.toLines)) :=
  Diff.print_of_wellFormed fun file hfile =>
    (Diff.readable_of_parse h file (List.mem_of_mem_filter hfile)).1

/-- The diff of one branch, as the text of the sections that are sent to it. -/
def entryOf (groups : List Group) (default : String) (files : List Diff.File) (branch : String) :
    BranchDiff :=
  ⟨branch, Text.unlines ((sentTo groups default branch files).flatMap Diff.File.toLines)⟩

/-- A diff that can be read can be split. -/
theorem partition_eq_ok {text : String} {files : List Diff.File} (h : Diff.parse text = .ok files)
    (groups : List Group) (default : String) :
    BranchDiffs.partition groups default text =
      .ok ⟨(branchesOf groups default files).map (entryOf groups default files)⟩ := by
  have hentries : (sentByBranch groups default (branchesOf groups default files) files).mapM
      (fun (branch, files) => BranchDiff.ofFiles branch files) =
        .ok ((branchesOf groups default files).map (entryOf groups default files)) := by
    rw [sentByBranch, List.mapM_map, mapM_eq_ok_iff, List.forall₂_map_right_iff,
      List.forall₂_same]
    intro branch _
    simp only [Function.comp_apply, BranchDiff.ofFiles, print_sentTo h groups default branch]
    rfl
  simp only [BranchDiffs.partition, h, filesByBranch_eq, hentries]
  rfl

theorem partition_eq_ok_iff {groups : List Group} {default text : String} {diffs : BranchDiffs} :
    BranchDiffs.partition groups default text = .ok diffs ↔
      ∃ files, Diff.parse text = .ok files ∧
        diffs = ⟨(branchesOf groups default files).map (entryOf groups default files)⟩ := by
  cases hparse : Diff.parse text with
  | error e => simp [BranchDiffs.partition, hparse]
  | ok files => simp [partition_eq_ok hparse groups default, eq_comm]

/-- A diff that cannot be read is all that keeps one from being split. -/
theorem partition_eq_error_iff {groups : List Group} {default text : String} {e : PartitionError} :
    BranchDiffs.partition groups default text = .error e ↔
      ∃ cause, Diff.parse text = .error cause ∧ e = .parse cause := by
  cases hparse : Diff.parse text with
  | error cause => simp [BranchDiffs.partition, hparse, eq_comm]
  | ok files => simp [partition_eq_ok hparse groups default]

/-- Where all sections have the default branch, the outcome is their text on that branch alone. -/
theorem partition_eq_single {text default : String} {files : List Diff.File} {groups : List Group}
    (h : Diff.parse text = .ok files)
    (hroutes : ∀ file ∈ files, Group.routeOf groups default file = default) :
    BranchDiffs.partition groups default text =
      .ok (.single default (Text.unlines (files.flatMap Diff.File.toLines))) := by
  have hothers : (files.map (Group.routeOf groups default)).filter (· ≠ default) = [] := by
    rw [List.filter_eq_nil_iff, List.forall_mem_map]
    exact fun file hfile => by simp [hroutes file hfile]
  have hsent : sentTo groups default default files = files :=
    List.filter_eq_self.2 fun file hfile => by simp [hroutes file hfile]
  rw [partition_eq_ok h, branchesOf, hothers, List.eraseDups_nil, List.map_singleton, entryOf,
    hsent, BranchDiffs.single]

theorem branches_map_entryOf (groups : List Group) (default : String) (files : List Diff.File)
    (branches : List String) :
    BranchDiffs.branches ⟨branches.map (entryOf groups default files)⟩ = branches := by
  simp [BranchDiffs.branches, entryOf, Function.comp_def]

theorem BranchDiffs.get?_eq_some_iff {diffs : BranchDiffs} (h : diffs.branches.Nodup)
    {branch diff : String} : diffs.get? branch = some diff ↔ ⟨branch, diff⟩ ∈ diffs.entries := by
  rw [get?, Option.map_eq_some_iff]
  constructor
  · intro hspec
    obtain ⟨entry, hfind, rfl⟩ := hspec
    obtain rfl : entry.branch = branch := by simpa using List.find?_some hfind
    exact List.mem_of_find?_eq_some hfind
  · intro hmem
    cases hfind : diffs.entries.find? (·.branch == branch) with
    | none => simpa using List.find?_eq_none.1 hfind _ hmem
    | some entry =>
        have hentry : entry.branch = branch := by simpa using List.find?_some hfind
        have heq := List.inj_on_of_nodup_map h (List.mem_of_find?_eq_some hfind) hmem hentry
        exact ⟨entry, rfl, by rw [heq]⟩

theorem BranchDiffs.isSome_get?_iff {diffs : BranchDiffs} {branch : String} :
    (diffs.get? branch).isSome ↔ branch ∈ diffs.branches := by
  simp [get?, branches]

theorem unlines_ne_empty {files : List Diff.File} (hne : files ≠ [])
    (h : ∀ file ∈ files, file.WellFormed) :
    Text.unlines (files.flatMap Diff.File.toLines) ≠ "" := by
  obtain ⟨file, rest, rfl⟩ := List.exists_cons_of_ne_nil hne
  obtain ⟨line, lines, hlines, -⟩ := (h file List.mem_cons_self).toLines_eq_cons
  intro hempty
  have := congrArg String.toList hempty
  simp [Text.unlines, hlines] at this

/-- Splitting any diff that can be read, by any groups at all, gives distinct branches: the default
one first, and then each other one that a section is sent to, as their first sections come. The
diff of a branch is the text of the sections that are sent to it. -/
theorem partition_of_parse (groups : List Group) (default text : String) {files : List Diff.File}
    (h : Diff.parse text = .ok files) :
    ∃ diffs, BranchDiffs.partition groups default text = .ok diffs ∧
      diffs.branches.Nodup ∧
      diffs.branches = default ::
        ((files.map (Group.routeOf groups default)).filter (· ≠ default)).eraseDups ∧
      (∀ entry ∈ diffs.entries,
        Diff.print (sentTo groups default entry.branch files) = .ok entry.diff ∧
        (entry.branch ≠ default →
          sentTo groups default entry.branch files ≠ [] ∧ entry.diff ≠ "")) ∧
      (∀ file branch, Group.routeOf groups default file = branch ↔
        Group.RoutesTo groups default file.effectivePath branch) ∧
      (∀ branch diff, diffs.get? branch = some diff ↔ ⟨branch, diff⟩ ∈ diffs.entries) ∧
      ∀ branch, (diffs.get? branch).isSome ↔ branch ∈ diffs.branches := by
  refine ⟨_, partition_eq_ok h groups default, ?_⟩
  have hbranches := branches_map_entryOf groups default files (branchesOf groups default files)
  have hnodup := nodup_branchesOf groups default files
  refine ⟨?_, ?_, ?_, fun _ _ => Group.route_eq_iff, fun _ _ => BranchDiffs.get?_eq_some_iff ?_,
    fun _ => BranchDiffs.isSome_get?_iff⟩
  · rwa [hbranches]
  · rw [hbranches]
    rfl
  · intro entry hentry
    obtain ⟨branch, hbranch, rfl⟩ := List.mem_map.1 hentry
    refine ⟨print_sentTo h groups default branch, fun hne => ?_⟩
    obtain ⟨file, hfile, hroute⟩ := (mem_branchesOf.1 hbranch).resolve_left hne
    have hsent : sentTo groups default branch files ≠ [] :=
      List.ne_nil_of_mem (List.mem_filter.2 ⟨hfile, by simpa using hroute⟩)
    refine ⟨hsent, unlines_ne_empty hsent fun file hfile => ?_⟩
    exact (Diff.readable_of_parse h file (List.mem_of_mem_filter hfile)).1
  · rwa [hbranches]

/-- Three groups that send to two branches, one that sends to the default branch and one without a
directory, which covers every path and comes first. -/
def overlappingGroups : List Group :=
  [⟨"", "", "none"⟩, ⟨"", "lib", "one"⟩, ⟨"", "lib/x", "two"⟩, ⟨"", "doc", "main"⟩,
    ⟨"", "cfg", "one"⟩]

/-- A diff of four plain sections without hunks. -/
def plainSections : String :=
  "--- a/lib/x\n+++ b/lib/x\n--- a/doc\n+++ b/doc\n--- a/cfg\n+++ b/cfg\n--- a/bin\n+++ b/bin\n"

theorem partition_plainSections :
    ∃ files, Diff.parse plainSections = .ok files ∧
      ∃ diffs, BranchDiffs.partition overlappingGroups "main" plainSections = .ok diffs ∧
        diffs.branches = ["main", "two", "one"] := by
  have hparse : Diff.parse plainSections = .ok
      [⟨[], [], ⟨"a/lib/x", none⟩, ⟨"b/lib/x", none⟩, true, []⟩,
        ⟨[], [], ⟨"a/doc", none⟩, ⟨"b/doc", none⟩, true, []⟩,
        ⟨[], [], ⟨"a/cfg", none⟩, ⟨"b/cfg", none⟩, true, []⟩,
        ⟨[], [], ⟨"a/bin", none⟩, ⟨"b/bin", none⟩, true, []⟩] := by decide +kernel
  obtain ⟨diffs, hdiffs, -, hbranches, -⟩ :=
    partition_of_parse overlappingGroups "main" plainSections hparse
  refine ⟨_, hparse, diffs, hdiffs, ?_⟩
  rw [hbranches]
  decide +kernel

end Changesets
