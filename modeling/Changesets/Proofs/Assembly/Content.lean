import Changesets.Proofs.Assembly.HeadRef

/-!
What the changesets of a successful assembly hold. They are made one for one from the diffs of the
branches, which are the whole diff on the branch of the template if no group applies, and else what
the diff is split into.
-/
namespace Changesets

open Template (Context)

theorem Task.applicableGroups_eq_filter (task : Task) :
    task.applicableGroups = (task.groups.getD []).filter fun group =>
      group.repository = "" ∨ group.repository = task.repository.name := by
  rw [applicableGroups, Group.applicable]
  refine List.filter_congr fun group _ => ?_
  rw [Bool.eq_iff_iff]
  simp [Group.appliesTo]

namespace Assembler

/-- All changesets of a task have the same texts. Without groups there is one, with the diff as it
is; with groups there is one for each branch that the diff is split over, in order. The first is on
the branch of the template. -/
theorem assemble_madeFrom_entries (assembler : Assembler) (task : Task) (execution : Execution)
    {changesets : List Changeset} (h : assembler.assemble task execution = .ok changesets) :
    task.applicableGroups = ((task.groups.getD []).filter fun group =>
      group.repository = "" ∨ group.repository = task.repository.name) ∧
    ∃ rendered,
      assembler.Renders (Context.ofTask task execution) task.template rendered ∧
      (task.applicableGroups = [] → ∃ changeset, changesets = [changeset] ∧
        assembler.MadeFrom task rendered ⟨rendered.branch, execution.diff⟩ changeset) ∧
      (task.applicableGroups ≠ [] → ∃ diffs,
        BranchDiffs.partition task.applicableGroups rendered.branch execution.diff = .ok diffs ∧
          List.Forall₂ (assembler.MadeFrom task rendered) diffs.entries changesets) ∧
      ∃ first rest, changesets = first :: rest ∧
        first.headRef = refOfBranch rendered.branch := by
  obtain ⟨rendered, diffs, hrenders, hdiffs, hmade⟩ := assemble_eq_ok_iff.1 h
  refine ⟨task.applicableGroups_eq_filter, rendered, hrenders, fun hnone => ?_, fun hsome => ?_, ?_⟩
  · obtain ⟨-, rfl⟩ := (branchDiffs_eq_ok_iff.1 hdiffs).resolve_right fun hgroups => hgroups.1 hnone
    obtain ⟨changeset, rest, hfirst, hrest, rfl⟩ := List.forall₂_cons_left_iff.1 hmade
    obtain rfl := List.forall₂_nil_left_iff.1 hrest
    exact ⟨changeset, rfl, hfirst⟩
  · obtain ⟨-, -, hpartition⟩ :=
      (branchDiffs_eq_ok_iff.1 hdiffs).resolve_left fun hgroups => hsome hgroups.1
    exact ⟨diffs, hpartition, hmade⟩
  · obtain ⟨diff, entries, hentries⟩ := entries_eq_cons_of_branchDiffs hdiffs
    rw [hentries] at hmade
    obtain ⟨first, rest, hfirst, -, rfl⟩ := List.forall₂_cons_left_iff.1 hmade
    exact ⟨first, rest, rfl, hfirst.headRef⟩

/-- A task that names the author of its commits. -/
def authored : Task :=
  { twoGroups "topic" "other" with
    template :=
      { title := "Hello"
        branch := "hello-world"
        commit := { message := "Msg", author := some ⟨"Ann", "ann@acme.org"⟩ } } }

def authoredChangeset (headRef diff : String) : Changeset :=
  { plainChangeset headRef diff with commits := [⟨"Msg", "Ann", "ann@acme.org", diff⟩] }

theorem assemble_madeFrom_entries_authored :
    ∃ changesets, full.assemble authored twoFiles = .ok changesets ∧
      ∃ rendered diffs, full.Renders (Context.ofTask authored twoFiles) authored.template rendered ∧
        BranchDiffs.partition authored.applicableGroups rendered.branch twoFiles.diff = .ok diffs ∧
        List.Forall₂ (full.MadeFrom authored rendered) diffs.entries changesets := by
  have h : full.assemble authored twoFiles = .ok
      [authoredChangeset "refs/heads/hello-world" "",
        authoredChangeset "refs/heads/topic" "--- a/one\n+++ b/one\n",
        authoredChangeset "refs/heads/other" "--- a/two\n+++ b/two\n"] := by decide +kernel
  obtain ⟨-, rendered, hrenders, -, hgrouped, -⟩ := assemble_madeFrom_entries _ _ _ h
  obtain ⟨diffs, hdiffs, hmade⟩ := hgrouped (by decide)
  exact ⟨_, h, rendered, diffs, hrenders, hdiffs, hmade⟩

end Assembler

end Changesets
