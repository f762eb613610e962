import Changesets.Proofs.Assembly.HeadRef
import Changesets.Proofs.Grouping.Conflict

/-!
Which changeset holds a file that a group is for. Groups may not name the branch template as it is
written, but they may name the branch that it renders to, and the files of such a group stay on the
branch of the template. All others are found in another changeset.
-/
namespace Changesets

open Template (Context)

/-- The diff of the changeset is made of these sections. -/
def Changeset.HasSections (changeset : Changeset) (files : List Diff.File) : Prop :=
  ∃ commit, changeset.commits = [commit] ∧ Diff.print files = .ok commit.diff

namespace Assembler

/-- The changeset of a branch holds the sections that are sent to the branch. -/
structure Holds (groups : List Group) (default : String) (files : List Diff.File) (branch : String)
    (changeset : Changeset) : Prop where
  headRef : changeset.headRef = refOfBranch branch
  sections : changeset.HasSections (sentTo groups default branch files)

theorem MadeFrom.holds {assembler : Assembler} {task : Task} {rendered : Rendered}
    {text default branch : String} {files : List Diff.File} {changeset : Changeset}
    (hfiles : Diff.parse text = .ok files) (groups : List Group)
    (h : assembler.MadeFrom task rendered (entryOf groups default files branch) changeset) :
    Holds groups default files branch changeset :=
  ⟨h.headRef, _, h.commits, print_sentTo hfiles groups default branch⟩

/-- Each branch of a grouped assembly has its changeset, in order. -/
theorem forall₂_holds {assembler : Assembler} {task : Task} {execution : Execution}
    {changesets : List Changeset} (h : assembler.assemble task execution = .ok changesets)
    (hgroups : task.applicableGroups ≠ []) :
    ∃ branch files,
      assembler.renderer "branch" task.template.branch (Context.ofTask task execution) =
        .ok branch ∧
      Diff.parse execution.diff = .ok files ∧
      Group.conflict? task.repository.name task.template.branch task.applicableGroups = none ∧
      List.Forall₂ (Holds task.applicableGroups branch files)
        (branchesOf task.applicableGroups branch files) changesets := by
  obtain ⟨rendered, diffs, hrenders, hdiffs, hmade⟩ := assemble_eq_ok_iff.1 h
  obtain ⟨-, hconflict, hpartition⟩ :=
    (branchDiffs_eq_ok_iff.1 hdiffs).resolve_left fun hnone => hgroups hnone.1
  obtain ⟨files, hfiles, rfl⟩ := partition_eq_ok_iff.1 hpartition
  rw [List.forall₂_map_left_iff] at hmade
  exact ⟨rendered.branch, files, hrenders.branch, hfiles, hconflict,
    hmade.imp fun _ _ hentry => hentry.holds hfiles task.applicableGroups⟩

/-- No group names the branch template as it is written. A file that a group decides about is in the
changeset of that group's branch, which is not the first one unless the group names the branch that
the template renders to. -/
theorem assemble_isolates (assembler : Assembler) (task : Task) (execution : Execution)
    {changesets : List Changeset} (h : assembler.assemble task execution = .ok changesets)
    (hgroups : task.applicableGroups ≠ []) :
    (∀ group ∈ task.applicableGroups, group.branch ≠ task.template.branch) ∧
    ∃ branch files first rest,
      assembler.renderer "branch" task.template.branch (Context.ofTask task execution) =
        .ok branch ∧
      Diff.parse execution.diff = .ok files ∧
      changesets = first :: rest ∧
      Holds task.applicableGroups branch files branch first ∧
      ∀ file ∈ files, ∀ group,
        Group.Decides task.applicableGroups file.effectivePath group → group.directory ≠ "" →
          (group.branch = branch → file ∈ sentTo task.applicableGroups branch branch files) ∧
          (group.branch ≠ branch →
            file ∉ sentTo task.applicableGroups branch branch files ∧
            file ∈ sentTo task.applicableGroups branch group.branch files ∧
            ∃ changeset ∈ rest,
              Holds task.applicableGroups branch files group.branch changeset) := by
  obtain ⟨branch, files, hbranch, hfiles, hconflict, hholds⟩ := forall₂_holds h hgroups
  obtain ⟨first, rest, hfirst, hrest, rfl⟩ := List.forall₂_cons_left_iff.1 hholds
  refine ⟨(Group.conflict?_eq_none_iff.1 hconflict).2, branch, files, first, rest, hbranch, hfiles,
    rfl, hfirst, fun file hfile group hdecides hdir => ?_⟩
  have hroute : Group.routeOf task.applicableGroups branch file = group.branch :=
    Group.route_of_decides hdecides hdir
  refine ⟨fun hsame => mem_sentTo.2 ⟨hfile, hroute.trans hsame⟩, fun hother => ⟨?_, ?_, ?_⟩⟩
  · exact fun hmem => hother (hroute.symm.trans (mem_sentTo.1 hmem).2)
  · exact mem_sentTo.2 ⟨hfile, hroute⟩
  · have hmem : group.branch ∈ branchesOf task.applicableGroups branch files :=
      mem_branchesOf.2 (.inr ⟨file, hfile, hroute⟩)
    exact exists_mem_of_forall₂ hrest ((List.mem_cons.1 hmem).resolve_left hother)

/-- A task with a group that names what the branch template renders to, and one that does not. -/
def renderedClash : Task :=
  { twoGroups "hello-world" "topic" with
    batchChange := { name := "hello-world" }
    template :=
      { title := "Hello", branch := "${{ batch_change.name }}", commit := { message := "Msg" } } }

theorem assemble_renderedClash :
    full.assemble renderedClash twoFiles = .ok
      [plainChangeset "refs/heads/hello-world" "--- a/one\n+++ b/one\n",
        plainChangeset "refs/heads/topic" "--- a/two\n+++ b/two\n"] := by
  decide +kernel

theorem render_renderedClash :
    full.renderer "branch" renderedClash.template.branch (Context.ofTask renderedClash twoFiles) =
      .ok "hello-world" := by
  decide +kernel

/-- The file of the first group stays in the first changeset, that of the second is in another. -/
theorem assemble_isolates_renderedClash :
    ∃ changesets, full.assemble renderedClash twoFiles = .ok changesets ∧
      renderedClash.applicableGroups ≠ [] ∧
      ∃ files first rest, Diff.parse twoFiles.diff = .ok files ∧ changesets = first :: rest ∧
        Holds renderedClash.applicableGroups "hello-world" files "hello-world" first ∧
        (∃ file ∈ files, file.effectivePath = "b/one" ∧
          file ∈ sentTo renderedClash.applicableGroups "hello-world" "hello-world" files) ∧
        ∃ file ∈ files, file.effectivePath = "b/two" ∧
          file ∉ sentTo renderedClash.applicableGroups "hello-world" "hello-world" files ∧
          ∃ changeset ∈ rest,
            Holds renderedClash.applicableGroups "hello-world" files "topic" changeset := by
  have hgroups : renderedClash.applicableGroups ≠ [] := by decide
  have hparse : Diff.parse twoFiles.diff = .ok
      [⟨[], [], ⟨"a/one", none⟩, ⟨"b/one", none⟩, true, []⟩,
        ⟨[], [], ⟨"a/two", none⟩, ⟨"b/two", none⟩, true, []⟩] := by decide +kernel
  obtain ⟨-, branch, files, first, rest, hbranch, hfiles, hcons, hfirst, hrest⟩ :=
    assemble_isolates _ _ _ assemble_renderedClash hgroups
  obtain rfl := Except.ok.inj (render_renderedClash.symm.trans hbranch)
  obtain rfl := Except.ok.inj (hparse.symm.trans hfiles)
  have hone := (hrest _ List.mem_cons_self ⟨"", "one", "hello-world"⟩ (by decide) (by decide)).1 rfl
  obtain ⟨hnotFirst, -, hlater⟩ := (hrest _ (List.mem_cons_of_mem _ List.mem_cons_self)
    ⟨"", "two", "topic"⟩ (by decide) (by decide)).2 (by decide)
  exact ⟨_, assemble_renderedClash, hgroups, _, first, rest, hparse, hcons, hfirst,
    ⟨_, List.mem_cons_self, rfl, hone⟩,
    _, List.mem_cons_of_mem _ List.mem_cons_self, rfl, hnotFirst, hlater⟩

/-- The first group names the branch of the template once that is rendered, and its file stays there
with the check passed. -/
theorem not_isolated_renderedClash :
    full.assemble renderedClash twoFiles = .ok
      [plainChangeset "refs/heads/hello-world" "--- a/one\n+++ b/one\n",
        plainChangeset "refs/heads/topic" "--- a/two\n+++ b/two\n"] ∧
    ∃ group ∈ renderedClash.applicableGroups, group.directory ≠ "" ∧
      full.renderer "branch" renderedClash.template.branch
        (Context.ofTask renderedClash twoFiles) = .ok group.branch ∧
      Group.Decides renderedClash.applicableGroups "b/one" group := by
  exact ⟨assemble_renderedClash, ⟨"", "one", "hello-world"⟩, by decide, by decide,
    render_renderedClash, by decide⟩

end Assembler

end Changesets
