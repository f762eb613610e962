import Changesets.Proofs.Assembly.HeadRef

/-!
Groups that send no file away. A task with such groups has the outcome of the task without them,
except that the diff of its one changeset was read and written again.
-/
namespace Changesets

open Template (Context)

/-- Some of the groups apply to the repository, without conflict, and none sends one of the files
away from the branch of the template. -/
structure Task.InertGroups (task : Task) (groups : List Group) (files : List Diff.File) : Prop where
  applicable : Group.applicable task.repository.name groups ≠ []
  conflict : Group.conflict? task.repository.name task.template.branch
    (Group.applicable task.repository.name groups) = none
  stays : ∀ file ∈ files,
    Group.StaysOnDefault (Group.applicable task.repository.name groups) file.effectivePath

/-- The changeset with another diff in its commits. -/
def Changeset.withDiff (changeset : Changeset) (diff : String) : Changeset :=
  { changeset with commits := changeset.commits.map fun commit => { commit with diff } }

theorem Changeset.withDiff_eq_self_iff {changeset : Changeset} {commit : Commit}
    (h : changeset.commits = [commit]) (diff : String) :
    changeset.withDiff diff = changeset ↔ commit.diff = diff := by
  constructor
  · intro heq
    have hcommits := congrArg Changeset.commits heq
    rw [withDiff, h, List.map_singleton, List.singleton_inj] at hcommits
    exact (congrArg Commit.diff hcommits).symm
  · intro heq
    subst heq
    rw [withDiff, h, List.map_singleton, ← h]

namespace Assembler

section
variable {assembler : Assembler} {task : Task} {execution : Execution} {groups : List Group}

theorem changesets_of_single {rendered : Rendered} {branch diff : String}
    (h : branchDiffs task execution rendered.branch = .ok (.single branch diff)) :
    assembler.changesets task execution rendered =
      (assembler.changeset task rendered ⟨branch, diff⟩).map fun changeset => [changeset] := by
  rw [changesets, h]
  show [(⟨branch, diff⟩ : BranchDiff)].mapM (assembler.changeset task rendered) = _
  rw [List.mapM_cons]
  cases assembler.changeset task rendered ⟨branch, diff⟩ <;> rfl

/-- The groups of a task do not matter to the changeset of a branch. -/
theorem changeset_withGroups (rendered : Rendered) (branch diff printed : String) :
    assembler.changeset (task.withGroups groups) rendered ⟨branch, printed⟩ =
      (assembler.changeset task rendered ⟨branch, diff⟩).map (·.withDiff printed) := by
  have hpublished : assembler.published (task.withGroups groups) branch =
      assembler.published task branch := rfl
  rw [changeset, changeset, hpublished]
  cases assembler.published task branch <;> rfl

theorem branchDiffs_withGroups {files : List Diff.File} (branch : String)
    (hfiles : Diff.parse execution.diff = .ok files)
    (hinert : task.InertGroups groups files) :
    branchDiffs (task.withGroups groups) execution branch =
      .ok (.single branch (Text.unlines (files.flatMap Diff.File.toLines))) := by
  refine branchDiffs_eq_ok_iff.2 (.inr ⟨hinert.applicable, hinert.conflict, ?_⟩)
  exact partition_eq_single hfiles fun file hfile =>
    Group.route_of_staysOnDefault (hinert.stays file hfile) _

theorem assemble_withGroups {files : List Diff.File}
    (hraw : task.applicableGroups = [])
    (hfiles : Diff.parse execution.diff = .ok files)
    (hinert : task.InertGroups groups files) :
    assembler.assemble (task.withGroups groups) execution =
      (assembler.assemble task execution).map
        (List.map (·.withDiff (Text.unlines (files.flatMap Diff.File.toLines)))) := by
  -- templates cannot name the groups, so that both tasks are rendered alike
  have hcontext : Context.ofTask (task.withGroups groups) execution =
      Context.ofTask task execution := rfl
  have htemplate : (task.withGroups groups).template = task.template := rfl
  rw [assemble_eq_bind, assemble_eq_bind, hcontext, htemplate]
  cases ((assembler.renderTemplate (Context.ofTask task execution) task.template).run.run []).1 with
  | error e => rfl
  | ok rendered =>
      show assembler.changesets (task.withGroups groups) execution rendered =
        (assembler.changesets task execution rendered).map _
      rw [changesets_of_single (branchDiffs_withGroups _ hfiles hinert),
        changesets_of_single (branchDiffs_eq_ok_iff.2 (.inl ⟨hraw, rfl⟩)),
        changeset_withGroups _ _ execution.diff]
      cases assembler.changeset task rendered ⟨rendered.branch, execution.diff⟩ <;> rfl

/-- Without groups the one changeset has the diff as it is. -/
theorem exists_eq_singleton_of_assemble {changesets : List Changeset}
    (hraw : task.applicableGroups = [])
    (h : assembler.assemble task execution = .ok changesets) :
    ∃ changeset commit, changesets = [changeset] ∧ changeset.commits = [commit] ∧
      commit.diff = execution.diff := by
  obtain ⟨rendered, diffs, -, hdiffs, hmade⟩ := assemble_eq_ok_iff.1 h
  obtain ⟨-, rfl⟩ := (branchDiffs_eq_ok_iff.1 hdiffs).resolve_right fun hgroups => hgroups.1 hraw
  obtain ⟨changeset, rest, hfirst, hrest, rfl⟩ := List.forall₂_cons_left_iff.1 hmade
  obtain rfl := List.forall₂_nil_left_iff.1 hrest
  exact ⟨changeset, _, rfl, hfirst.commits, rfl⟩

end

/-- Groups that leave every file on the branch of the template make no difference to whether and how
an assembly fails. Where it succeeds both outcomes are one changeset, and these differ in the diff
alone, which is the canonical text of the sections once groups apply. -/
theorem assemble_withGroups_of_inertGroups (assembler : Assembler) (task : Task)
    (execution : Execution) {groups : List Group} {files : List Diff.File}
    (hraw : task.applicableGroups = [])
    (hfiles : Diff.parse execution.diff = .ok files)
    (hinert : task.InertGroups groups files) :
    ∃ printed, Diff.print files = .ok printed ∧
      (∀ e, assembler.assemble (task.withGroups groups) execution = .error e ↔
        assembler.assemble task execution = .error e) ∧
      ((∃ changesets, assembler.assemble (task.withGroups groups) execution = .ok changesets) ↔
        ∃ changesets, assembler.assemble task execution = .ok changesets) ∧
      ∀ changesets, assembler.assemble task execution = .ok changesets →
        ∃ changeset commit, changesets = [changeset] ∧ changeset.commits = [commit] ∧
          commit.diff = execution.diff ∧
          assembler.assemble (task.withGroups groups) execution =
            .ok [{ changeset with commits := [{ commit with diff := printed }] }] ∧
          ({ changeset with commits := [{ commit with diff := printed }] } = changeset ↔
            execution.diff = printed) := by
  have hprint := Diff.print_of_wellFormed fun file hfile =>
    (Diff.readable_of_parse hfiles file hfile).1
  have heq : assembler.assemble (task.withGroups groups) execution = _ :=
    assemble_withGroups hraw hfiles hinert
  refine ⟨_, hprint, fun e => ?_, ?_, fun changesets h => ?_⟩
  · rw [heq, map_eq_error_iff]
  · rw [heq]
    cases assembler.assemble task execution <;> simp
  · obtain ⟨changeset, commit, rfl, hcommits, hdiff⟩ := exists_eq_singleton_of_assemble hraw h
    rw [h, map_ok, List.map_singleton] at heq
    have hwith : ∀ diff, changeset.withDiff diff =
        { changeset with commits := [{ commit with diff }] } := by
      intro diff
      rw [Changeset.withDiff, hcommits, List.map_singleton]
    rw [hwith] at heq
    refine ⟨changeset, commit, rfl, hcommits, hdiff, heq, ?_⟩
    rw [← hwith, Changeset.withDiff_eq_self_iff hcommits, hdiff]

/-- The last of these groups that covers a path has an empty directory, and that of the third is
another repository. -/
def maskedGroups : List Group :=
  [⟨"", "one", "topic"⟩, ⟨"", "", "all"⟩, ⟨"github.com/acme/lib", "one", "lib"⟩]

/-- A diff of one section that begins with a blank line and leaves out the counts of a hunk. -/
def looseOne : Execution :=
  { diff := "\n--- a/one\n+++ b/one\n@@ -1 +1 @@\n-a\n+b\n" }

def looseOneSection : Diff.File :=
  { old := ⟨"a/one", none⟩
    new := ⟨"b/one", none⟩
    hasHeader := true
    hunks := [⟨⟨⟨1, 1⟩, ⟨1, 1⟩, ""⟩, ["-a", "+b"]⟩] }

def ungrouped : Task :=
  { twoGroups "" "" with groups := none }

theorem assemble_withGroups_maskedGroups :
    full.assemble ungrouped looseOne =
        .ok [plainChangeset "refs/heads/hello-world" looseOne.diff] ∧
      full.assemble (ungrouped.withGroups maskedGroups) looseOne =
        .ok [plainChangeset "refs/heads/hello-world"
          "--- a/one\n+++ b/one\n@@ -1,1 +1,1 @@\n-a\n+b\n"] := by
  have hparse : Diff.parse looseOne.diff = .ok [looseOneSection] := by decide +kernel
  have hprinted : Diff.print [looseOneSection] =
      .ok "--- a/one\n+++ b/one\n@@ -1,1 +1,1 @@\n-a\n+b\n" := by decide +kernel
  have hraw : full.assemble ungrouped looseOne =
      .ok [plainChangeset "refs/heads/hello-world" looseOne.diff] := by decide +kernel
  have hstays : Group.StaysOnDefault (Group.applicable ungrouped.repository.name maskedGroups)
      "b/one" := .inr ⟨⟨"", "", "all"⟩, by decide, rfl⟩
  have hinert : ungrouped.InertGroups maskedGroups [looseOneSection] :=
    ⟨by decide, by decide, List.forall_mem_singleton.2 hstays⟩
  obtain ⟨printed, hprint, -, -, hgrouped⟩ :=
    assemble_withGroups_of_inertGroups full ungrouped looseOne rfl hparse hinert
  obtain ⟨changeset, commit, hone, hcommits, -, hassemble, -⟩ := hgrouped _ hraw
  obtain rfl := List.singleton_inj.1 hone
  obtain rfl := List.singleton_inj.1 hcommits
  obtain rfl := Except.ok.inj (hprint.symm.trans hprinted)
  exact ⟨hraw, hassemble⟩

end Assembler

end Changesets
