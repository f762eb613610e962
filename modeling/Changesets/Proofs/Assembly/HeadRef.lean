import Changesets.Proofs.Assembly.Outcome

/-!
The head refs of the changesets of one task. Their branches always differ, but a branch may be named
with the prefix of its ref or without it, and the two names have one ref. `headRefs_nodup_iff` says
that this is the only way in which two changesets come to the same head ref.
-/
namespace Changesets

theorem refOfBranch_of_startsWith {branch : String}
    (h : Text.startsWith branchRefPrefix branch) : refOfBranch branch = branch := by
  rw [refOfBranch, if_pos h]

theorem refOfBranch_of_not_startsWith {branch : String}
    (h : Text.startsWith branchRefPrefix branch = false) :
    refOfBranch branch = branchRefPrefix ++ branch := by
  rw [refOfBranch, h, if_neg Bool.false_ne_true]

theorem refOfBranch_prefix_append (branch : String) :
    refOfBranch (branchRefPrefix ++ branch) = branchRefPrefix ++ branch :=
  refOfBranch_of_startsWith (Text.startsWith_append _ _)

/-- Two branches have one ref if they are the same or one is the ref of the other. -/
theorem refOfBranch_eq_iff {a b : String} :
    refOfBranch a = refOfBranch b ↔ a = b ∨
      Text.startsWith branchRefPrefix a = false ∧ b = branchRefPrefix ++ a ∨
      Text.startsWith branchRefPrefix b = false ∧ a = branchRefPrefix ++ b := by
  constructor
  · intro h
    cases ha : Text.startsWith branchRefPrefix a with
    | true =>
        cases hb : Text.startsWith branchRefPrefix b with
        | true =>
            rw [refOfBranch_of_startsWith ha, refOfBranch_of_startsWith hb] at h
            exact .inl h
        | false =>
            rw [refOfBranch_of_startsWith ha, refOfBranch_of_not_startsWith hb] at h
            exact .inr (.inr ⟨rfl, h⟩)
    | false =>
        cases hb : Text.startsWith branchRefPrefix b with
        | true =>
            rw [refOfBranch_of_not_startsWith ha, refOfBranch_of_startsWith hb] at h
            exact .inr (.inl ⟨rfl, h.symm⟩)
        | false =>
            rw [refOfBranch_of_not_startsWith ha, refOfBranch_of_not_startsWith hb] at h
            -- both refs are the prefix and the branch
            have hchars := congrArg String.toList h
            rw [String.toList_append, String.toList_append] at hchars
            exact .inl (String.toList_injective (List.append_cancel_left hchars))
  · intro h
    rcases h with rfl | ⟨ha, rfl⟩ | ⟨hb, rfl⟩
    · rfl
    · rw [refOfBranch_of_not_startsWith ha, refOfBranch_prefix_append]
    · rw [refOfBranch_of_not_startsWith hb, refOfBranch_prefix_append]

theorem nodup_map_refOfBranch_iff {branches : List String} (h : branches.Nodup) :
    (branches.map refOfBranch).Nodup ↔
      ∀ branch ∈ branches, Text.startsWith branchRefPrefix branch = false →
        branchRefPrefix ++ branch ∉ branches := by
  rw [List.nodup_map_iff_inj_on h]
  constructor
  · intro hinj branch hbranch hplain hmem
    have heq := hinj branch hbranch _ hmem (refOfBranch_eq_iff.2 (.inr (.inl ⟨hplain, rfl⟩)))
    rw [heq, Text.startsWith_append] at hplain
    cases hplain
  · intro hbranches a ha b hb heq
    rcases refOfBranch_eq_iff.1 heq with rfl | ⟨hplain, rfl⟩ | ⟨hplain, rfl⟩
    · rfl
    · exact absurd hb (hbranches a ha hplain)
    · exact absurd ha (hbranches b hb hplain)

namespace Assembler

open Template (Context)

/-- The branches of a successful assembly: that of the template alone if no group applies, and else
those that the sections of the diff are sent to. -/
inductive HasBranches (task : Task) (execution : Execution) (branch : String) :
    List String → Prop
  | single : task.applicableGroups = [] → HasBranches task execution branch [branch]
  | grouped {files : List Diff.File} :
      task.applicableGroups ≠ [] → Diff.parse execution.diff = .ok files →
        HasBranches task execution branch (branchesOf task.applicableGroups branch files)

theorem HasBranches.nodup {task : Task} {execution : Execution} {branch : String}
    {branches : List String} (h : HasBranches task execution branch branches) :
    branches.Nodup := by
  cases h with
  | single _ => exact List.nodup_singleton branch
  | grouped _ _ => exact nodup_branchesOf _ _ _

theorem hasBranches_of_branchDiffs {task : Task} {execution : Execution} {branch : String}
    {diffs : BranchDiffs} (h : branchDiffs task execution branch = .ok diffs) :
    HasBranches task execution branch diffs.branches := by
  rcases branchDiffs_eq_ok_iff.1 h with ⟨hgroups, rfl⟩ | ⟨hgroups, -, hpartition⟩
  · exact .single hgroups
  · obtain ⟨files, hfiles, rfl⟩ := partition_eq_ok_iff.1 hpartition
    rw [branches_map_entryOf]
    exact .grouped hgroups hfiles

theorem map_headRef_of_forall₂ {assembler : Assembler} {task : Task} {rendered : Rendered}
    {entries : List BranchDiff} {changesets : List Changeset}
    (h : List.Forall₂ (assembler.MadeFrom task rendered) entries changesets) :
    changesets.map (·.headRef) = (entries.map (·.branch)).map refOfBranch := by
  induction h with
  | nil => rfl
  | cons hentry _ ih =>
      rw [List.map_cons, List.map_cons, List.map_cons, ih, hentry.headRef]

/-- The changesets of a task are on different branches. Their head refs differ too if and only if
no branch is named without the prefix of its ref while another is named by that ref. -/
theorem headRefs_nodup_iff (assembler : Assembler) (task : Task) (execution : Execution)
    {changesets : List Changeset} (h : assembler.assemble task execution = .ok changesets) :
    ∃ branch branches,
      assembler.renderer "branch" task.template.branch (Context.ofTask task execution) =
        .ok branch ∧
      HasBranches task execution branch branches ∧ branches.Nodup ∧
      changesets.map (·.headRef) = branches.map refOfBranch ∧
      ((changesets.map (·.headRef)).Nodup ↔
        ∀ name ∈ branches, Text.startsWith branchRefPrefix name = false →
          branchRefPrefix ++ name ∉ branches) := by
  obtain ⟨rendered, diffs, hrenders, hdiffs, hentries⟩ := assemble_eq_ok_iff.1 h
  have hbranches := hasBranches_of_branchDiffs hdiffs
  have hrefs : changesets.map (·.headRef) = diffs.branches.map refOfBranch :=
    map_headRef_of_forall₂ hentries
  refine ⟨rendered.branch, diffs.branches, hrenders.branch, hbranches, hbranches.nodup, hrefs, ?_⟩
  rw [hrefs]
  exact nodup_map_refOfBranch_iff hbranches.nodup

/-- An assembler with all capabilities of the service. -/
def full : Assembler :=
  { renderer := .standard
    features := { allowOptionalPublished := true, includeAutoAuthorDetails := true } }

/-- A task that sends the files of two directories to the given branches. -/
def twoGroups (first second : String) : Task :=
  { repository :=
      { id := "UmVwbzox", name := "github.com/acme/app", baseRef := "refs/heads/main"
        baseRev := "d34db33f" }
    template := { title := "Hello", branch := "hello-world", commit := { message := "Msg" } }
    groups := some [⟨"", "one", first⟩, ⟨"", "two", second⟩] }

/-- A diff with a file for each of the two groups. -/
def twoFiles : Execution :=
  { diff := "--- a/one\n+++ b/one\n--- a/two\n+++ b/two\n" }

/-- The changeset of a branch without a policy. -/
def plainChangeset (headRef diff : String) : Changeset :=
  { baseRepository := "UmVwbzox"
    baseRef := "refs/heads/main"
    baseRev := "d34db33f"
    headRepository := "UmVwbzox"
    headRef
    title := "Hello"
    body := ""
    commits := [⟨"Msg", "Sourcegraph", "batch-changes@sourcegraph.com", diff⟩] }

theorem headRefs_nodup_mixedSpellings :
    ∃ changesets, full.assemble (twoGroups "topic" "refs/heads/other") twoFiles = .ok changesets ∧
      ∃ branches : List String, changesets.map (·.headRef) = branches.map refOfBranch ∧
        ∀ name ∈ branches, Text.startsWith branchRefPrefix name = false →
          branchRefPrefix ++ name ∉ branches := by
  have h : full.assemble (twoGroups "topic" "refs/heads/other") twoFiles = .ok
      [plainChangeset "refs/heads/hello-world" "",
        plainChangeset "refs/heads/topic" "--- a/one\n+++ b/one\n",
        plainChangeset "refs/heads/other" "--- a/two\n+++ b/two\n"] := by decide +kernel
  obtain ⟨branch, branches, -, -, -, hrefs, hiff⟩ := headRefs_nodup_iff _ _ _ h
  exact ⟨_, h, branches, hrefs, hiff.1 (by decide)⟩

/-- Groups that name one branch with and without the prefix of its ref pass the check and give two
changesets with one head ref. -/
theorem headRefs_not_nodup_twoSpellings :
    ∃ changesets, full.assemble (twoGroups "topic" "refs/heads/topic") twoFiles = .ok changesets ∧
      ¬ (changesets.map (·.headRef)).Nodup := by
  have h : full.assemble (twoGroups "topic" "refs/heads/topic") twoFiles = .ok
      [plainChangeset "refs/heads/hello-world" "",
        plainChangeset "refs/heads/topic" "--- a/one\n+++ b/one\n",
        plainChangeset "refs/heads/topic" "--- a/two\n+++ b/two\n"] := by decide +kernel
  exact ⟨_, h, by decide⟩

end Assembler

end Changesets
