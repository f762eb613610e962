import Changesets.Proofs.Assembly.SentValue

/-!
What the features of a service change in an assembly. One that can do without a publication value
gets the values of the policy as they are; one that cannot gets `false` for none, and nothing at all
if there is no policy. The author that the service stands for is in the commits only, and only where
the template names none.
-/
namespace Changesets

open Template (Context)

/-- The changeset as a service gets it that needs a value. -/
def Changeset.settled (changeset : Changeset) : Changeset :=
  if changeset.published = .absent then { changeset with published := .explicit false }
  else changeset

/-- The changeset with another author of its commits. -/
def Changeset.authoredBy (author : Author) (changeset : Changeset) : Changeset :=
  { changeset with
    commits := changeset.commits.map fun commit =>
      { commit with authorName := author.name, authorEmail := author.email } }

namespace Assembler

/-- The assembler for a service that can do without a publication value, or cannot. -/
def withOptionalPublished (assembler : Assembler) (allowed : Bool) : Assembler :=
  { assembler with features := { assembler.features with allowOptionalPublished := allowed } }

/-- The assembler for a service that stands for an author, or does not. -/
def withAutoAuthor (assembler : Assembler) (included : Bool) : Assembler :=
  { assembler with features := { assembler.features with includeAutoAuthorDetails := included } }

section
variable {assembler other : Assembler} {task : Task} {execution : Execution}

/-- Where the changesets of two assemblers differ alike for every entry, so do all of them. -/
theorem changesets_eq_map {rendered rendered' : Rendered} {g : Changeset → Changeset}
    (hbranch : rendered'.branch = rendered.branch)
    (h : ∀ entry, other.changeset task rendered' entry =
      (assembler.changeset task rendered entry).map g) :
    other.changesets task execution rendered' =
      (assembler.changesets task execution rendered).map (List.map g) := by
  rw [changesets, changesets, hbranch, funext h]
  cases branchDiffs task execution rendered.branch with
  | error e => rfl
  | ok diffs => exact mapM_map_eq _ g diffs.entries

/-! ## Publication values -/

theorem published_needing {policy : Publication.Policy}
    (h : task.template.published = some policy) (branch : String) :
    (assembler.withOptionalPublished false).published task branch =
      ((assembler.withOptionalPublished true).published task branch).map fun value =>
        if value = .absent then .explicit false else value := by
  rw [published_of_policy h, published_of_policy h]
  simp [withOptionalPublished, Service.Features.settle]

theorem changeset_needing {policy : Publication.Policy}
    (h : task.template.published = some policy) (rendered : Rendered) (entry : BranchDiff) :
    (assembler.withOptionalPublished false).changeset task rendered entry =
      ((assembler.withOptionalPublished true).changeset task rendered entry).map
        Changeset.settled := by
  rw [changeset, changeset, published_needing h]
  cases (assembler.withOptionalPublished true).published task entry.branch with
  | error e => rfl
  | ok value => by_cases hvalue : value = .absent <;> simp [Changeset.settled, hvalue]

theorem assemble_needing {policy : Publication.Policy}
    (h : task.template.published = some policy) :
    (assembler.withOptionalPublished false).assemble task execution =
      ((assembler.withOptionalPublished true).assemble task execution).map
        (List.map Changeset.settled) := by
  -- the templates are rendered alike
  have hrender : (assembler.withOptionalPublished false).renderTemplate =
      (assembler.withOptionalPublished true).renderTemplate := rfl
  rw [assemble_eq_bind, assemble_eq_bind, hrender]
  cases (((assembler.withOptionalPublished true).renderTemplate (Context.ofTask task execution)
    task.template).run.run []).1 with
  | error e => rfl
  | ok rendered => exact changesets_eq_map rfl (changeset_needing h rendered)

theorem Refuses.needing {e : AssemblyError} (hother : e ≠ .publishedRequired)
    (h : (assembler.withOptionalPublished false).Refuses task execution e) :
    (assembler.withOptionalPublished true).Refuses task execution e := by
  cases h with
  | render hmade => exact .render hmade
  | conflict hall hgroups hconflict => exact .conflict hall hgroups hconflict
  | parse hall hgroups hconflict hparse => exact .parse hall hgroups hconflict hparse
  | publishedRequired => exact absurd rfl hother

theorem published_absent_of_no_policy {changesets : List Changeset}
    (h : assembler.assemble task execution = .ok changesets)
    (hnone : task.template.published = none) :
    ∀ changeset ∈ changesets, changeset.published = .absent := by
  obtain ⟨rendered, diffs, -, -, hmade⟩ := assemble_eq_ok_iff.1 h
  intro changeset hmem
  obtain ⟨entry, -, hfrom⟩ := exists_mem_of_forall₂ hmade.flip hmem
  exact (published_of_no_policy hnone hfrom.published).2

/-! ## Authors -/

theorem assemble_withAutoAuthor_of_author (h : task.template.commit.author ≠ none)
    (included : Bool) :
    (assembler.withAutoAuthor included).assemble task execution =
      assembler.assemble task execution := by
  obtain ⟨author, hauthor⟩ := Option.ne_none_iff_exists'.1 h
  have hrender : (assembler.withAutoAuthor included).renderTemplate
        (Context.ofTask task execution) task.template =
      assembler.renderTemplate (Context.ofTask task execution) task.template := by
    simp only [renderTemplate, renderAuthor, hauthor]
    rfl
  rw [assemble_eq_bind, assemble_eq_bind, hrender]
  rfl

/-- The author of commits whose template names none. -/
def unnamedAuthor (assembler : Assembler) : Author :=
  if assembler.features.includeAutoAuthorDetails then assembler.authorDefaults else ⟨"", ""⟩

/-- A difference in the last step of a rendering is one of its text, if it has one. -/
theorem fst_run_bind_eq_map {α β : Type} {m : Rendering α} {k k' : α → Rendering β} {g : β → β}
    (h : ∀ a calls, ((k' a).run.run calls).1 = ((k a).run.run calls).1.map g)
    (calls : List RenderCall) :
    ((m >>= k').run.run calls).1 = ((m >>= k).run.run calls).1.map g := by
  rw [run_bind, run_bind]
  obtain ⟨outcome, calls⟩ := m.run.run calls
  cases outcome with
  | error e => rfl
  | ok a => exact h a calls

theorem fst_run_renderTemplate_withAutoAuthor {template : ChangesetTemplate}
    (h : template.commit.author = none) (context : Context) (included : Bool)
    (calls : List RenderCall) :
    (((assembler.withAutoAuthor included).renderTemplate context template).run.run calls).1 =
      ((assembler.renderTemplate context template).run.run calls).1.map fun rendered =>
        { rendered with author := (assembler.withAutoAuthor included).unnamedAuthor } := by
  simp only [renderTemplate, renderAuthor, h, pure_bind]
  apply fst_run_bind_eq_map
  intro title
  apply fst_run_bind_eq_map
  intro body
  apply fst_run_bind_eq_map
  intro message
  apply fst_run_bind_eq_map
  intro branch calls
  rfl

theorem changeset_withAutoAuthor (rendered : Rendered) (author : Author) (included : Bool)
    (entry : BranchDiff) :
    (assembler.withAutoAuthor included).changeset task { rendered with author } entry =
      (assembler.changeset task rendered entry).map (·.authoredBy author) := by
  have hpublished : (assembler.withAutoAuthor included).published task entry.branch =
      assembler.published task entry.branch := rfl
  rw [changeset, changeset, hpublished]
  cases assembler.published task entry.branch <;> rfl

theorem assemble_withAutoAuthor_of_no_author (h : task.template.commit.author = none)
    (included : Bool) :
    (assembler.withAutoAuthor included).assemble task execution =
      (assembler.assemble task execution).map
        (List.map (·.authoredBy (assembler.withAutoAuthor included).unnamedAuthor)) := by
  rw [assemble_eq_bind, assemble_eq_bind, fst_run_renderTemplate_withAutoAuthor h]
  cases ((assembler.renderTemplate (Context.ofTask task execution) task.template).run.run []).1 with
  | error e => rfl
  | ok rendered => exact changesets_eq_map rfl (changeset_withAutoAuthor rendered _ included)

end

/-! ## Both features -/

/-- A service that needs publication values refuses a task without a policy, where one that can do
without gets no value for any of its changesets. Apart from that both fail alike, or get the same
changesets: where the policy has no value for a branch, the first is sent `false` and the second
nothing. Whether a service stands for an author makes no difference to failures, none at all where
the template names one, and else only to the author of the commits. -/
theorem assemble_of_other_features (assembler : Assembler) (task : Task) (execution : Execution) :
    ((assembler.withOptionalPublished false).assemble task execution = .error .publishedRequired →
      ∃ changesets, (assembler.withOptionalPublished true).assemble task execution =
          .ok changesets ∧
        ∀ changeset ∈ changesets, changeset.published = .absent) ∧
    (∀ e, e ≠ .publishedRequired →
      (assembler.withOptionalPublished false).assemble task execution = .error e →
        (assembler.withOptionalPublished true).assemble task execution = .error e) ∧
    (∀ changesets,
      (assembler.withOptionalPublished false).assemble task execution = .ok changesets →
        ∃ policy branch names asked,
          task.template.published = some policy ∧
          assembler.renderer "branch" task.template.branch (Context.ofTask task execution) =
            .ok branch ∧
          HasBranches task execution branch names ∧
          (assembler.withOptionalPublished true).assemble task execution = .ok asked ∧
          List.Forall₂ (fun name changeset => changeset.headRef = refOfBranch name ∧
            changeset.published = policy.valueFor task.repository.name name) names asked ∧
          changesets = asked.map Changeset.settled) ∧
    ∀ included,
      failure? ((assembler.withAutoAuthor included).assemble task execution) =
        failure? (assembler.assemble task execution) ∧
      (task.template.commit.author ≠ none →
        (assembler.withAutoAuthor included).assemble task execution =
          assembler.assemble task execution) ∧
      (task.template.commit.author = none →
        (assembler.withAutoAuthor included).assemble task execution =
          (assembler.assemble task execution).map (List.map (·.authoredBy
            (if included then assembler.authorDefaults else ⟨"", ""⟩)))) := by
  refine ⟨fun h => ?_, fun e hother h => ?_, fun changesets h => ?_,
    fun included => ⟨?_, fun h => assemble_withAutoAuthor_of_author h included,
      fun h => assemble_withAutoAuthor_of_no_author h included⟩⟩
  · cases assemble_eq_error_iff.1 h with
    | publishedRequired hall hsplits hnone _ =>
        obtain ⟨changesets, hchangesets⟩ :
            ∃ changesets, (assembler.withOptionalPublished true).assemble task execution =
              .ok changesets := exists_assemble_eq_ok_iff.2 ⟨hall, hsplits, fun _ => rfl⟩
        exact ⟨changesets, hchangesets, published_absent_of_no_policy hchangesets hnone⟩
  · exact assemble_eq_error_iff.2 ((assemble_eq_error_iff.1 h).needing hother)
  · have hneeds := (exists_assemble_eq_ok_iff.1 ⟨changesets, h⟩).2.2
    obtain ⟨policy, hpolicy⟩ : ∃ policy, task.template.published = some policy :=
      Option.ne_none_iff_exists'.1 fun hnone => nomatch hneeds hnone
    rw [assemble_needing hpolicy] at h
    obtain ⟨asked, hasked, rfl⟩ := map_eq_ok.1 h
    obtain ⟨rendered, diffs, hrenders, hdiffs, hmade⟩ := assemble_eq_ok_iff.1 hasked
    refine ⟨policy, rendered.branch, diffs.branches, asked, hpolicy, hrenders.branch,
      hasBranches_of_branchDiffs hdiffs, hasked, ?_, rfl⟩
    rw [BranchDiffs.branches, List.forall₂_map_left_iff]
    refine hmade.imp fun entry changeset hfrom => ⟨hfrom.headRef, ?_⟩
    rw [(hfrom.publishedAs hpolicy).published]
    simp [withOptionalPublished, Service.Features.settle]
  · by_cases hauthor : task.template.commit.author = none
    · rw [assemble_withAutoAuthor_of_no_author hauthor, failure?_map]
    · rw [assemble_withAutoAuthor_of_author hauthor]

end Assembler

end Changesets
