import Changesets.Assembly
import Changesets.Proofs.Grouping.Partition

/-!
When an assembly succeeds and what it gives then, one lemma for each of its stages: the rendering of
the templates, the diffs of the branches and the changeset of each branch. `assemble_eq_ok_iff` joins
them.
-/
namespace Changesets.Assembler

open Template (Context)

/-! ## Rendering -/

/-- The renderer gives the texts for the templates, and the author where a template names one. -/
structure Renders (assembler : Assembler) (context : Context) (template : ChangesetTemplate)
    (rendered : Rendered) : Prop where
  author : match template.commit.author with
    | some author =>
      assembler.renderer "authorName" author.name context = .ok rendered.author.name ∧
        assembler.renderer "authorEmail" author.email context = .ok rendered.author.email
    | none => rendered.author =
      if assembler.features.includeAutoAuthorDetails then assembler.authorDefaults else ⟨"", ""⟩
  title : assembler.renderer "title" template.title context = .ok rendered.title
  body : assembler.renderer "body" template.body context = .ok rendered.body
  message : assembler.renderer "message" template.commit.message context = .ok rendered.message
  branch : assembler.renderer "branch" template.branch context = .ok rendered.branch

theorem run_bind {α β : Type} (m : Rendering α) (k : α → Rendering β)
    (calls : List RenderCall) :
    (m >>= k).run.run calls = match m.run.run calls with
      | (.ok a, calls) => (k a).run.run calls
      | (.error e, calls) => (.error e, calls) := by
  rw [ExceptT.run_bind, StateT.run_bind]
  obtain ⟨outcome, calls⟩ := m.run.run calls
  cases outcome <;> rfl

theorem fst_run_bind_eq_ok_iff {α β : Type} {m : Rendering α} {k : α → Rendering β}
    {calls : List RenderCall} {b : β} :
    ((m >>= k).run.run calls).1 = .ok b ↔
      ∃ a, (m.run.run calls).1 = .ok a ∧ ((k a).run.run (m.run.run calls).2).1 = .ok b := by
  rw [run_bind]
  obtain ⟨outcome, calls⟩ := m.run.run calls
  cases outcome <;> simp

section
variable {assembler : Assembler} {context : Context}

theorem fst_run_renderField (field template : String) (calls : List RenderCall) :
    ((assembler.renderField context field template).run.run calls).1 =
      assembler.renderer field template context :=
  rfl

theorem fst_run_pure {α : Type} (a : α) (calls : List RenderCall) :
    ((pure a : Rendering α).run.run calls).1 = .ok a :=
  rfl

theorem fst_run_renderAuthor_eq_ok_iff {author : Option Author} {rendered : Author}
    {calls : List RenderCall} :
    ((assembler.renderAuthor context author).run.run calls).1 = .ok rendered ↔
      match author with
      | some author =>
        assembler.renderer "authorName" author.name context = .ok rendered.name ∧
          assembler.renderer "authorEmail" author.email context = .ok rendered.email
      | none => rendered =
        if assembler.features.includeAutoAuthorDetails then assembler.authorDefaults
        else ⟨"", ""⟩ := by
  cases author with
  | none =>
      simp only [renderAuthor, fst_run_pure, Except.ok.injEq]
      exact eq_comm
  | some author =>
      simp only [renderAuthor, fst_run_bind_eq_ok_iff, fst_run_renderField, fst_run_pure,
        Except.ok.injEq]
      constructor
      · intro h
        obtain ⟨name, hname, email, hemail, rfl⟩ := h
        exact ⟨hname, hemail⟩
      · intro h
        exact ⟨_, h.1, _, h.2, rfl⟩

theorem fst_run_renderTemplate_eq_ok_iff {template : ChangesetTemplate} {rendered : Rendered}
    {calls : List RenderCall} :
    ((assembler.renderTemplate context template).run.run calls).1 = .ok rendered ↔
      assembler.Renders context template rendered := by
  simp only [renderTemplate, fst_run_bind_eq_ok_iff, fst_run_renderField,
    fst_run_renderAuthor_eq_ok_iff, fst_run_pure, Except.ok.injEq]
  constructor
  · intro h
    obtain ⟨author, hauthor, title, htitle, body, hbody, message, hmessage, branch, hbranch, rfl⟩ := h
    exact ⟨hauthor, htitle, hbody, hmessage, hbranch⟩
  · intro h
    exact ⟨_, h.author, _, h.title, _, h.body, _, h.message, _, h.branch, rfl⟩

end

/-! ## Branches and changesets -/

theorem branchDiffs_eq_ok_iff {task : Task} {execution : Execution} {branch : String}
    {diffs : BranchDiffs} :
    branchDiffs task execution branch = .ok diffs ↔
      task.applicableGroups = [] ∧ diffs = .single branch execution.diff ∨
        task.applicableGroups ≠ [] ∧
          Group.conflict? task.repository.name task.template.branch task.applicableGroups = none ∧
          BranchDiffs.partition task.applicableGroups branch execution.diff = .ok diffs := by
  rw [branchDiffs]
  cases hgroups : task.applicableGroups with
  | nil => simp [eq_comm]
  | cons group groups =>
      cases hconflict :
          Group.conflict? task.repository.name task.template.branch (group :: groups) with
      | none => simp [hconflict, mapError_eq_ok_iff]
      | some e => simp [hconflict]

/-- The branch of the template always comes first. -/
theorem entries_eq_cons_of_branchDiffs {task : Task} {execution : Execution} {branch : String}
    {diffs : BranchDiffs} (h : branchDiffs task execution branch = .ok diffs) :
    ∃ diff rest, diffs.entries = ⟨branch, diff⟩ :: rest := by
  rcases branchDiffs_eq_ok_iff.1 h with ⟨-, rfl⟩ | ⟨-, -, hpartition⟩
  · exact ⟨_, [], rfl⟩
  · obtain ⟨files, -, rfl⟩ := partition_eq_ok_iff.1 hpartition
    exact ⟨_, _, rfl⟩

/-- The changeset is on the branch of the entry, has its diff in the only commit, and shares all else
with the other changesets of the task, except that the policy looks at the branch too. -/
structure MadeFrom (assembler : Assembler) (task : Task) (rendered : Rendered) (entry : BranchDiff)
    (changeset : Changeset) : Prop where
  headRef : changeset.headRef = refOfBranch entry.branch
  commits : changeset.commits =
    [⟨rendered.message, rendered.author.name, rendered.author.email, entry.diff⟩]
  published : assembler.published task entry.branch = .ok changeset.published
  baseRepository : changeset.baseRepository = task.repository.id
  headRepository : changeset.headRepository = task.repository.id
  baseRef : changeset.baseRef = task.repository.baseRef
  baseRev : changeset.baseRev = task.repository.baseRev
  title : changeset.title = rendered.title
  body : changeset.body = rendered.body

theorem changeset_eq_ok_iff {assembler : Assembler} {task : Task} {rendered : Rendered}
    {entry : BranchDiff} {changeset : Changeset} :
    assembler.changeset task rendered entry = .ok changeset ↔
      assembler.MadeFrom task rendered entry changeset := by
  rw [Assembler.changeset, map_eq_ok]
  constructor
  · intro h
    obtain ⟨value, hvalue, rfl⟩ := h
    exact ⟨rfl, rfl, hvalue, rfl, rfl, rfl, rfl, rfl, rfl⟩
  · intro h
    obtain ⟨baseRepository, baseRef, baseRev, headRepository, headRef, title, body, commits,
      published⟩ := changeset
    obtain ⟨rfl, rfl, hpublished, rfl, rfl, rfl, rfl, rfl, rfl⟩ := h
    exact ⟨published, hpublished, rfl⟩

theorem assemble_eq_bind (assembler : Assembler) (task : Task) (execution : Execution) :
    assembler.assemble task execution =
      (((assembler.renderTemplate (Context.ofTask task execution) task.template).run.run
        []).1.mapError .render >>= assembler.changesets task execution) :=
  rfl

/-- An assembly succeeds if all its stages do, and gives one changeset for each branch. -/
theorem assemble_eq_ok_iff {assembler : Assembler} {task : Task} {execution : Execution}
    {changesets : List Changeset} :
    assembler.assemble task execution = .ok changesets ↔
      ∃ rendered diffs,
        assembler.Renders (Context.ofTask task execution) task.template rendered ∧
        branchDiffs task execution rendered.branch = .ok diffs ∧
        List.Forall₂ (assembler.MadeFrom task rendered) diffs.entries changesets := by
  simp only [assemble_eq_bind, Assembler.changesets, bind_eq_ok_iff, mapError_eq_ok_iff, mapM_eq_ok_iff,
    changeset_eq_ok_iff, fst_run_renderTemplate_eq_ok_iff, exists_and_left]

end Changesets.Assembler
