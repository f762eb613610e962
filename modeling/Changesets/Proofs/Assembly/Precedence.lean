import Changesets.Proofs.Assembly.Rendering

/-!
Which fault an assembly reports where it has several. A failed rendering counts before all others,
then a conflict among the groups, then a diff that cannot be read and at last a missing policy.
`assemble_eq_error_iff_refuses` adds to this which calls of the renderer are made.
-/
namespace Changesets.Assembler

open Template (Context)

/-! ## The faults of each stage -/

section
variable {assembler : Assembler} {task : Task} {execution : Execution} {e : AssemblyError}

theorem published_eq_error_iff {branch : String} :
    assembler.published task branch = .error e ↔
      task.template.published = none ∧ assembler.features.allowOptionalPublished = false ∧
        e = .publishedRequired := by
  rw [published]
  cases task.template.published with
  | none => cases assembler.features.allowOptionalPublished <;> simp [eq_comm]
  | some policy =>
      cases hvalue : policy.valueFor task.repository.name branch <;> simp [hvalue]

theorem changeset_eq_error_iff {rendered : Rendered} {entry : BranchDiff} :
    assembler.changeset task rendered entry = .error e ↔
      task.template.published = none ∧ assembler.features.allowOptionalPublished = false ∧
        e = .publishedRequired := by
  rw [changeset, map_eq_error_iff, published_eq_error_iff]

theorem branchDiffs_eq_error_iff {branch : String} :
    branchDiffs task execution branch = .error e ↔ task.applicableGroups ≠ [] ∧
      ((∃ conflict, Group.conflict? task.repository.name task.template.branch
          task.applicableGroups = some conflict ∧ e = .conflict conflict) ∨
        Group.conflict? task.repository.name task.template.branch task.applicableGroups = none ∧
          ∃ cause, Diff.parse execution.diff = .error cause ∧ e = .partition (.parse cause)) := by
  rw [branchDiffs]
  cases hgroups : task.applicableGroups with
  | nil => simp
  | cons group groups =>
      cases hconflict :
          Group.conflict? task.repository.name task.template.branch (group :: groups) with
      | some conflict => simp [hconflict, eq_comm]
      | none =>
          simp only [hconflict, mapError_eq_error_iff, partition_eq_error_iff]
          constructor
          · intro h
            obtain ⟨_, ⟨cause, hcause, rfl⟩, rfl⟩ := h
            exact ⟨List.cons_ne_nil _ _, .inr ⟨trivial, cause, hcause, rfl⟩⟩
          · intro h
            obtain ⟨-, ⟨_, hsome, -⟩ | ⟨-, cause, hcause, rfl⟩⟩ := h
            · cases hsome
            · exact ⟨_, ⟨cause, hcause, rfl⟩, rfl⟩

end

/-- The diff can be given to branches: no group applies, or the groups have no conflict and the diff
can be read. -/
def Splits (task : Task) (execution : Execution) : Prop :=
  task.applicableGroups ≠ [] →
    Group.conflict? task.repository.name task.template.branch task.applicableGroups = none ∧
      ∃ files, Diff.parse execution.diff = .ok files

section
variable {assembler : Assembler} {task : Task} {execution : Execution} {e : AssemblyError}

theorem exists_branchDiffs_iff_splits {branch : String} :
    (∃ diffs, branchDiffs task execution branch = .ok diffs) ↔ Splits task execution := by
  constructor
  · intro h hgroups
    obtain ⟨diffs, hdiffs⟩ := h
    obtain ⟨hnone, -⟩ | ⟨-, hconflict, hpartition⟩ := branchDiffs_eq_ok_iff.1 hdiffs
    · exact absurd hnone hgroups
    · obtain ⟨files, hfiles, -⟩ := partition_eq_ok_iff.1 hpartition
      exact ⟨hconflict, files, hfiles⟩
  · intro h
    by_cases hgroups : task.applicableGroups = []
    · exact ⟨_, branchDiffs_eq_ok_iff.2 (.inl ⟨hgroups, rfl⟩)⟩
    · obtain ⟨hconflict, files, hfiles⟩ := h hgroups
      exact ⟨_, branchDiffs_eq_ok_iff.2 (.inr ⟨hgroups, hconflict, partition_eq_ok hfiles _ _⟩)⟩

/-- Once the templates are rendered, a missing policy counts only if the diff can be given to
branches: the policy is looked at for each branch, of which there is at least one. -/
theorem changesets_eq_error_iff {rendered : Rendered} :
    assembler.changesets task execution rendered = .error e ↔
      branchDiffs task execution rendered.branch = .error e ∨
        Splits task execution ∧ task.template.published = none ∧
          assembler.features.allowOptionalPublished = false ∧ e = .publishedRequired := by
  rw [changesets, bind_eq_error_iff]
  refine or_congr_right ?_
  simp only [mapM_eq_error_iff, changeset_eq_error_iff]
  constructor
  · intro h
    obtain ⟨diffs, hdiffs, _, _, _, -, -, hpolicy⟩ := h
    exact ⟨exists_branchDiffs_iff_splits.1 ⟨diffs, hdiffs⟩, hpolicy⟩
  · intro h
    obtain ⟨diffs, hdiffs⟩ := exists_branchDiffs_iff_splits.2 h.1
    obtain ⟨diff, rest, hentries⟩ := entries_eq_cons_of_branchDiffs hdiffs
    exact ⟨diffs, hdiffs, [], ⟨rendered.branch, diff⟩, rest, hentries, by simp, h.2⟩

end

/-! ## Precedence -/

/-- The renderer has a text for every field of the template. -/
def RendersAll (assembler : Assembler) (task : Task) (execution : Execution) : Prop :=
  ∀ call ∈ task.template.plannedCalls,
    ∃ text, call.answer assembler.renderer (Context.ofTask task execution) = .ok text

/-- Why an assembly fails. A reason counts only where none of those before it does. -/
inductive Refuses (assembler : Assembler) (task : Task) (execution : Execution) :
    AssemblyError → Prop
  | render {made : List RenderCall} {e : RenderError} :
      Attempts assembler.renderer (Context.ofTask task execution) task.template.plannedCalls made
        (some e) → Refuses assembler task execution (.render e)
  | conflict {e : Group.Conflict} :
      assembler.RendersAll task execution → task.applicableGroups ≠ [] →
        Group.conflict? task.repository.name task.template.branch task.applicableGroups = some e →
          Refuses assembler task execution (.conflict e)
  | parse {e : Diff.ParseError} :
      assembler.RendersAll task execution → task.applicableGroups ≠ [] →
        Group.conflict? task.repository.name task.template.branch task.applicableGroups = none →
          Diff.parse execution.diff = .error e →
            Refuses assembler task execution (.partition (.parse e))
  | publishedRequired :
      assembler.RendersAll task execution → Splits task execution →
        task.template.published = none → assembler.features.allowOptionalPublished = false →
          Refuses assembler task execution .publishedRequired

section
variable {assembler : Assembler} {task : Task} {execution : Execution}

theorem refuses_iff_of_attempts_some {made : List RenderCall} {failure : RenderError}
    (h : Attempts assembler.renderer (Context.ofTask task execution) task.template.plannedCalls made
      (some failure)) {e : AssemblyError} :
    assembler.Refuses task execution e ↔ e = .render failure := by
  have hfails : ¬ assembler.RendersAll task execution := fun hall => by
    cases (h.unique (Attempts.none_iff.2 ⟨rfl, hall⟩)).2
  constructor
  · intro hrefuses
    cases hrefuses with
    | render h' => rw [Option.some.inj (h.unique h').2]
    | conflict hall | parse hall | publishedRequired hall => exact absurd hall hfails
  · intro heq
    subst heq
    exact .render h

theorem refuses_iff_of_rendersAll (h : assembler.RendersAll task execution) {rendered : Rendered}
    {e : AssemblyError} :
    assembler.Refuses task execution e ↔
      assembler.changesets task execution rendered = .error e := by
  rw [changesets_eq_error_iff, branchDiffs_eq_error_iff]
  constructor
  · intro hrefuses
    cases hrefuses with
    | render h' => cases (h'.unique (Attempts.none_iff.2 ⟨rfl, h⟩)).2
    | conflict _ hgroups hconflict => exact .inl ⟨hgroups, .inl ⟨_, hconflict, rfl⟩⟩
    | parse _ hgroups hconflict hparse => exact .inl ⟨hgroups, .inr ⟨hconflict, _, hparse, rfl⟩⟩
    | publishedRequired _ hsplits hpolicy hneeds => exact .inr ⟨hsplits, hpolicy, hneeds, rfl⟩
  · intro herror
    rcases herror with ⟨hgroups, ⟨_, hconflict, rfl⟩ | ⟨hconflict, _, hparse, rfl⟩⟩ |
      ⟨hsplits, hpolicy, hneeds, rfl⟩
    · exact .conflict h hgroups hconflict
    · exact .parse h hgroups hconflict hparse
    · exact .publishedRequired h hsplits hpolicy hneeds

theorem run_eq_of_renderTemplate {outcome : Except RenderError Rendered} {made : List RenderCall}
    (h : (assembler.renderTemplate (Context.ofTask task execution) task.template).run.run [] =
      (outcome, made)) :
    assembler.run task execution =
      (outcome.mapError .render >>= assembler.changesets task execution, made) := by
  rw [run, h]

/-- The renderings of an assembly and what comes of them. -/
theorem exists_renderTemplate (assembler : Assembler) (task : Task) (execution : Execution) :
    ∃ outcome made,
      assembler.run task execution =
        (outcome.mapError .render >>= assembler.changesets task execution, made) ∧
      Attempts assembler.renderer (Context.ofTask task execution) task.template.plannedCalls made
        (failure? outcome) ∧
      ∀ other : Renderer,
        (∀ call ∈ made, call.answer other (Context.ofTask task execution) =
          call.answer assembler.renderer (Context.ofTask task execution)) →
          { assembler with renderer := other }.run task execution =
            assembler.run task execution := by
  have hperforms : Performs (Context.ofTask task execution) _ _ :=
    Performs.renderTemplate assembler task.template
  obtain ⟨outcome, made, hrun, hmade, hother⟩ := hperforms assembler.renderer []
  have hresult := run_eq_of_renderTemplate hrun
  refine ⟨outcome, made, hresult, hmade, fun other hanswers => ?_⟩
  rw [hresult, run_eq_of_renderTemplate (hother other hanswers)]
  rfl

theorem assemble_eq_error_iff {e : AssemblyError} :
    assembler.assemble task execution = .error e ↔ assembler.Refuses task execution e := by
  obtain ⟨outcome, made, hrun, hmade, -⟩ := exists_renderTemplate assembler task execution
  rw [assemble, hrun]
  cases outcome with
  | error failure =>
      rw [refuses_iff_of_attempts_some hmade]
      simp [Except.mapError, eq_comm, bind, Except.bind]
  | ok rendered => exact (refuses_iff_of_rendersAll (Attempts.none_iff.1 hmade).2).symm

theorem forall_not_refuses_iff :
    (∀ e, ¬ assembler.Refuses task execution e) ↔
      assembler.RendersAll task execution ∧ Splits task execution ∧
        (task.template.published = none → assembler.features.allowOptionalPublished = true) := by
  constructor
  · intro hnone
    obtain ⟨outcome, made, -, hmade, -⟩ := exists_renderTemplate assembler task execution
    have hall : assembler.RendersAll task execution := by
      cases hfailure : failure? outcome with
      | some failure => exact absurd (.render (hfailure ▸ hmade)) (hnone (.render failure))
      | none => exact (Attempts.none_iff.1 (hfailure ▸ hmade)).2
    have hsplits : Splits task execution := by
      intro hgroups
      cases hconflict : Group.conflict? task.repository.name task.template.branch
          task.applicableGroups with
      | some e => exact absurd (.conflict hall hgroups hconflict) (hnone _)
      | none =>
          cases hparse : Diff.parse execution.diff with
          | error e => exact absurd (.parse hall hgroups hconflict hparse) (hnone _)
          | ok files => exact ⟨rfl, files, rfl⟩
    refine ⟨hall, hsplits, fun hpolicy => ?_⟩
    by_contra hneeds
    exact hnone _ (.publishedRequired hall hsplits hpolicy (Bool.eq_false_iff.2 hneeds))
  · intro h e hrefuses
    obtain ⟨hall, hsplits, hpolicy⟩ := h
    cases hrefuses with
    | render hmade => cases (hmade.unique (Attempts.none_iff.2 ⟨rfl, hall⟩)).2
    | conflict _ hgroups hconflict => cases (hsplits hgroups).1.symm.trans hconflict
    | parse _ hgroups _ hparse =>
        obtain ⟨files, hfiles⟩ := (hsplits hgroups).2
        cases hfiles.symm.trans hparse
    | publishedRequired _ _ hnone hneeds => cases (hpolicy hnone).symm.trans hneeds

theorem exists_assemble_eq_ok_iff :
    (∃ changesets, assembler.assemble task execution = .ok changesets) ↔
      assembler.RendersAll task execution ∧ Splits task execution ∧
        (task.template.published = none → assembler.features.allowOptionalPublished = true) := by
  rw [← forall_not_refuses_iff]
  simp only [← assemble_eq_error_iff]
  cases assembler.assemble task execution <;> simp

end

/-- The renderer is called for one planned field after the other, up to the first that fails, in one
context and whatever the groups and the diff are, and nothing else of it has any effect. An assembly
fails for the first reason there is, and succeeds if there is none. -/
theorem assemble_eq_error_iff_refuses (assembler : Assembler) (task : Task)
    (execution : Execution) :
    (∃ failure, Attempts assembler.renderer (Context.ofTask task execution)
      task.template.plannedCalls (assembler.calls task execution) failure) ∧
    assembler.calls task execution <+: task.template.plannedCalls ∧
    (∀ groups diff, assembler.calls { task with groups } { execution with diff } =
      assembler.calls task execution) ∧
    (∀ other : Renderer,
      (∀ call ∈ assembler.calls task execution,
        call.answer other (Context.ofTask task execution) =
          call.answer assembler.renderer (Context.ofTask task execution)) →
        { assembler with renderer := other }.run task execution = assembler.run task execution) ∧
    (∀ e, assembler.assemble task execution = .error e ↔ assembler.Refuses task execution e) ∧
    ((∃ changesets, assembler.assemble task execution = .ok changesets) ↔
      assembler.RendersAll task execution ∧ Splits task execution ∧
        (task.template.published = none → assembler.features.allowOptionalPublished = true)) ∧
    ∀ e : AssemblyError, e.isValidation ↔
      (∃ conflict, e = .conflict conflict) ∨ e = .publishedRequired := by
  obtain ⟨outcome, made, hrun, hmade, hother⟩ := exists_renderTemplate assembler task execution
  have hcalls : assembler.calls task execution = made := congrArg Prod.snd hrun
  rw [hcalls]
  refine ⟨⟨_, hmade⟩, hmade.isPrefix, fun _ _ => hcalls, hother, fun _ => assemble_eq_error_iff,
    exists_assemble_eq_ok_iff, fun e => ?_⟩
  cases e <;> simp [AssemblyError.isValidation]

end Changesets.Assembler
