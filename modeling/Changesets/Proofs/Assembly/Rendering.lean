import Changesets.Proofs.Assembly.Outcome

/-!
The renderings that an assembly asks for. A computation *performs* a list of planned calls if it
makes them in order up to the first that fails, and learns nothing of the renderer but the answers to
the calls that it makes. What performs one plan and then another performs both plans in a row.
-/
namespace Changesets

open Template (Context)

/-- The calls for an author. -/
def Author.plannedCalls : Option Author → List RenderCall
  | some author => [⟨"authorName", author.name⟩, ⟨"authorEmail", author.email⟩]
  | none => []

/-- The calls for all fields of a template. -/
def ChangesetTemplate.plannedCalls (template : ChangesetTemplate) : List RenderCall :=
  Author.plannedCalls template.commit.author ++
    [⟨"title", template.title⟩, ⟨"body", template.body⟩, ⟨"message", template.commit.message⟩,
      ⟨"branch", template.branch⟩]

def RenderCall.answer (call : RenderCall) (renderer : Renderer) (context : Context) :
    Except RenderError String :=
  renderer call.field call.template context

/-- The calls that are made of those that are planned, and the failure that ended them. -/
inductive Attempts (renderer : Renderer) (context : Context) :
    (planned made : List RenderCall) → (failure : Option RenderError) → Prop
  | done : Attempts renderer context [] [] none
  | failed {call : RenderCall} {rest : List RenderCall} {e : RenderError} :
      call.answer renderer context = .error e →
        Attempts renderer context (call :: rest) [call] (some e)
  | rendered {call : RenderCall} {text : String} {rest made : List RenderCall}
      {failure : Option RenderError} :
      call.answer renderer context = .ok text → Attempts renderer context rest made failure →
        Attempts renderer context (call :: rest) (call :: made) failure

namespace Attempts

variable {renderer : Renderer} {context : Context} {planned made : List RenderCall}

theorem isPrefix {failure : Option RenderError}
    (h : Attempts renderer context planned made failure) : made <+: planned := by
  induction h with
  | done => exact List.prefix_refl []
  | failed _ => exact ⟨_, rfl⟩
  | rendered _ _ ih => exact List.cons_prefix_cons.2 ⟨rfl, ih⟩

theorem unique {made' : List RenderCall} {failure failure' : Option RenderError}
    (h : Attempts renderer context planned made failure)
    (h' : Attempts renderer context planned made' failure') : made = made' ∧ failure = failure' := by
  induction h generalizing made' with
  | done =>
      cases h'
      exact ⟨rfl, rfl⟩
  | failed hcall =>
      cases h' with
      | failed hcall' =>
          obtain rfl := Except.error.inj (hcall.symm.trans hcall')
          exact ⟨rfl, rfl⟩
      | rendered hcall' _ => cases hcall.symm.trans hcall'
  | rendered hcall _ ih =>
      cases h' with
      | failed hcall' => cases hcall.symm.trans hcall'
      | rendered _ hrest =>
          obtain ⟨rfl, rfl⟩ := ih hrest
          exact ⟨rfl, rfl⟩

theorem none_iff : Attempts renderer context planned made none ↔
    made = planned ∧ ∀ call ∈ planned, ∃ text, call.answer renderer context = .ok text := by
  constructor
  · intro h
    generalize hfailure : (none : Option RenderError) = failure at h
    induction h with
    | done => exact ⟨rfl, by simp⟩
    | failed _ => cases hfailure
    | rendered hcall _ ih =>
        obtain ⟨rfl, hrest⟩ := ih hfailure
        exact ⟨rfl, List.forall_mem_cons.2 ⟨⟨_, hcall⟩, hrest⟩⟩
  · intro h
    obtain ⟨rfl, hall⟩ := h
    induction made with
    | nil => exact .done
    | cons call rest ih =>
        obtain ⟨⟨text, hcall⟩, hrest⟩ := List.forall_mem_cons.1 hall
        exact .rendered hcall (ih hrest)

theorem append_of_failed {e : RenderError} (h : Attempts renderer context planned made (some e))
    (later : List RenderCall) : Attempts renderer context (planned ++ later) made (some e) := by
  generalize hfailure : some e = failure at h ⊢
  induction h with
  | done => cases hfailure
  | failed hcall => exact .failed hcall
  | rendered hcall _ ih => exact .rendered hcall (ih hfailure)

theorem append {later made' : List RenderCall} {failure : Option RenderError}
    (h : Attempts renderer context planned made none)
    (hlater : Attempts renderer context later made' failure) :
    Attempts renderer context (planned ++ later) (made ++ made') failure := by
  generalize hnone : (none : Option RenderError) = ended at h
  induction h with
  | done => exact hlater
  | failed _ => cases hnone
  | rendered hcall _ ih => exact .rendered hcall (ih hnone)

theorem singleton (call : RenderCall) :
    Attempts renderer context [call] [call] (failure? (call.answer renderer context)) := by
  cases hanswer : call.answer renderer context with
  | error e => exact .failed hanswer
  | ok text => exact .rendered hanswer .done

end Attempts

/-- The computation makes the planned calls up to the first failure and tells it. A renderer with
the same answers to the calls that were made gives the same run. -/
def Performs {α : Type} (context : Context) (planned : List RenderCall)
    (m : Renderer → Rendering α) : Prop :=
  ∀ renderer calls, ∃ outcome made,
    (m renderer).run.run calls = (outcome, calls ++ made) ∧
    Attempts renderer context planned made (failure? outcome) ∧
    ∀ other : Renderer,
      (∀ call ∈ made, call.answer other context = call.answer renderer context) →
        (m other).run.run calls = (outcome, calls ++ made)

namespace Performs

variable {α β : Type} {context : Context} {planned later : List RenderCall}

theorem pure (a : α) : Performs context [] fun _ => (Pure.pure a : Rendering α) := by
  intro _ calls
  have hrun : (Pure.pure a : Rendering α).run.run calls = (.ok a, calls ++ []) := by
    rw [List.append_nil]
    rfl
  exact ⟨.ok a, [], hrun, .done, fun _ _ => hrun⟩

theorem bind {m : Renderer → Rendering α} {k : Renderer → α → Rendering β}
    (hm : Performs context planned m) (hk : ∀ a, Performs context later fun renderer => k renderer a) :
    Performs context (planned ++ later) fun renderer => m renderer >>= k renderer := by
  intro renderer calls
  obtain ⟨outcome, made, hrun, hmade, hother⟩ := hm renderer calls
  cases outcome with
  | error e =>
      refine ⟨.error e, made, ?_, hmade.append_of_failed later, fun other hanswers => ?_⟩
      · simp only [Assembler.run_bind, hrun]
      · simp only [Assembler.run_bind, hother other hanswers]
  | ok a =>
      obtain ⟨outcome', made', hrun', hmade', hother'⟩ := hk a renderer (calls ++ made)
      refine ⟨outcome', made ++ made', ?_, hmade.append hmade', fun other hanswers => ?_⟩
      · simp only [Assembler.run_bind, hrun, hrun', List.append_assoc]
      · rw [List.forall_mem_append] at hanswers
        simp only [Assembler.run_bind, hother other hanswers.1, hother' other hanswers.2,
          List.append_assoc]

variable (assembler : Assembler)

theorem renderField (field template : String) :
    Performs context [⟨field, template⟩] fun renderer =>
      { assembler with renderer }.renderField context field template := by
  intro renderer calls
  refine ⟨_, _, rfl, Attempts.singleton ⟨field, template⟩, fun other hanswers => ?_⟩
  rw [List.forall_mem_singleton] at hanswers
  exact congrArg (·, calls ++ [⟨field, template⟩]) hanswers

theorem renderAuthor (author : Option Author) :
    Performs context (Author.plannedCalls author) fun renderer =>
      { assembler with renderer }.renderAuthor context author := by
  cases author with
  | none =>
      exact pure (if assembler.features.includeAutoAuthorDetails then assembler.authorDefaults
        else ⟨"", ""⟩)
  | some author =>
      exact (renderField assembler _ _).bind fun _ => (renderField assembler _ _).bind fun _ =>
        pure _

theorem renderTemplate (template : ChangesetTemplate) :
    Performs context template.plannedCalls fun renderer =>
      { assembler with renderer }.renderTemplate context template :=
  (renderAuthor assembler _).bind fun _ => (renderField assembler _ _).bind fun _ =>
    (renderField assembler _ _).bind fun _ => (renderField assembler _ _).bind fun _ =>
      (renderField assembler _ _).bind fun _ => pure _

end Performs

end Changesets
