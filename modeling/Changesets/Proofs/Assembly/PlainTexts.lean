import Changesets.Proofs.Assembly.HeadRef
import Changesets.Proofs.Assembly.Precedence
import Changesets.Proofs.Template.Plain

/-!
Assemblies with the standard renderer where no delimiter opens in a text of the template. All
changesets have these texts as they are written, but for one line break at the end of each.
-/
namespace Changesets

open Template (Context Plain EndsInBreak withoutFinalBreak)

theorem Renderer.standard_of_plain {template : String} (h : Plain template) (field : String)
    (context : Context) :
    Renderer.standard field template context = .ok (withoutFinalBreak template) := by
  rw [standard, Template.render_of_plain h, mapError_ok]

/-! ## Templates without final breaks -/

def Author.withoutFinalBreaks (author : Author) : Author :=
  ⟨withoutFinalBreak author.name, withoutFinalBreak author.email⟩

theorem Author.withoutFinalBreaks_eq_self_iff {author : Author} :
    author.withoutFinalBreaks = author ↔
      ¬ EndsInBreak author.name ∧ ¬ EndsInBreak author.email := by
  obtain ⟨name, email⟩ := author
  rw [withoutFinalBreaks, mk.injEq, Template.withoutFinalBreak_eq_self_iff,
    Template.withoutFinalBreak_eq_self_iff]

namespace ChangesetTemplate

/-- The template with each of its texts as the scan takes it. -/
def withoutFinalBreaks (template : ChangesetTemplate) : ChangesetTemplate :=
  { template with
    title := withoutFinalBreak template.title
    body := withoutFinalBreak template.body
    branch := withoutFinalBreak template.branch
    commit :=
      { message := withoutFinalBreak template.commit.message
        author := template.commit.author.map Author.withoutFinalBreaks } }

theorem withoutFinalBreaks_eq_self_iff {template : ChangesetTemplate} :
    template.withoutFinalBreaks = template ↔
      ∀ call ∈ template.plannedCalls, ¬ EndsInBreak call.template := by
  obtain ⟨title, body, branch, ⟨message, author⟩, published⟩ := template
  have hauthor : author.map Author.withoutFinalBreaks = author ↔
      ∀ call ∈ Author.plannedCalls author, ¬ EndsInBreak call.template := by
    cases author <;> simp [Author.plannedCalls, Author.withoutFinalBreaks_eq_self_iff]
  simp only [withoutFinalBreaks, plannedCalls, mk.injEq, CommitTemplate.mk.injEq, hauthor,
    List.forall_mem_append, List.forall_mem_cons, Template.withoutFinalBreak_eq_self_iff]
  grind

end ChangesetTemplate

/-! ## Assemblies -/

/-- The changeset has the texts of the template, and the author where that names one. -/
structure Changeset.Copies (changeset : Changeset) (template : ChangesetTemplate) : Prop where
  title : changeset.title = template.title
  body : changeset.body = template.body
  commit : ∃ commit, changeset.commits = [commit] ∧ commit.message = template.commit.message ∧
    ∀ author ∈ template.commit.author,
      commit.authorName = author.name ∧ commit.authorEmail = author.email

namespace Assembler

section
variable {assembler : Assembler} {task : Task} {execution : Execution}

theorem rendersAll_of_plain (hstandard : assembler.renderer = .standard)
    (hplain : ∀ call ∈ task.template.plannedCalls, Plain call.template) :
    assembler.RendersAll task execution := by
  intro call hcall
  rw [hstandard]
  exact ⟨_, Renderer.standard_of_plain (hplain call hcall) call.field _⟩

theorem assemble_ne_render_of_rendersAll (h : assembler.RendersAll task execution)
    (e : RenderError) : assembler.assemble task execution ≠ .error (.render e) := by
  intro herror
  cases assemble_eq_error_iff.1 herror with
  | render hattempts => cases (hattempts.unique (Attempts.none_iff.2 ⟨rfl, h⟩)).2

/-- What the standard renderer gives for a field without delimiters. -/
theorem eq_withoutFinalBreak (hstandard : assembler.renderer = .standard) {field template : String}
    {context : Context} {text : String} (hplain : Plain template)
    (h : assembler.renderer field template context = .ok text) : text = withoutFinalBreak template := by
  rw [hstandard, Renderer.standard_of_plain hplain] at h
  exact (Except.ok.inj h).symm

theorem MadeFrom.copies (hstandard : assembler.renderer = .standard)
    (hplain : ∀ call ∈ task.template.plannedCalls, Plain call.template) {context : Context}
    {rendered : Rendered} (h : assembler.Renders context task.template rendered) {entry : BranchDiff}
    {changeset : Changeset} (hmade : assembler.MadeFrom task rendered entry changeset) :
    changeset.Copies task.template.withoutFinalBreaks := by
  rw [ChangesetTemplate.plannedCalls, List.forall_mem_append] at hplain
  obtain ⟨hauthorPlain, hfields⟩ := hplain
  simp only [List.forall_mem_cons] at hfields
  obtain ⟨htitle, hbody, hmessage, -⟩ := hfields
  refine ⟨?_, ?_, _, hmade.commits, ?_, ?_⟩
  · exact hmade.title.trans (eq_withoutFinalBreak hstandard htitle h.title)
  · exact hmade.body.trans (eq_withoutFinalBreak hstandard hbody h.body)
  · exact eq_withoutFinalBreak hstandard hmessage h.message
  · intro shown hshown
    obtain ⟨author, hauthor, rfl⟩ := Option.map_eq_some_iff.1 hshown
    have hrendered := h.author
    rw [hauthor] at hauthorPlain hrendered
    simp only [Author.plannedCalls, List.forall_mem_cons] at hauthorPlain
    exact ⟨eq_withoutFinalBreak hstandard hauthorPlain.1 hrendered.1,
      eq_withoutFinalBreak hstandard hauthorPlain.2.1 hrendered.2⟩

end

/-- A template without delimiters renders to itself if and only if it does not end in a line break,
and else to all of it but that break, in every context. With such texts no rendering fails in an
assembly, and every changeset has them so. -/
theorem renders_plain_to_itself_iff (assembler : Assembler)
    (hstandard : assembler.renderer = .standard) :
    (∀ template, Plain template →
      (∀ field context,
        assembler.renderer field template context = .ok (withoutFinalBreak template)) ∧
      (∀ field context,
        assembler.renderer field template context = .ok template ↔ ¬ EndsInBreak template) ∧
      (EndsInBreak template →
        ∃ ending ∈ ["\n", "\r", "\r\n"], template = withoutFinalBreak template ++ ending)) ∧
    ∀ task execution, (∀ call ∈ task.template.plannedCalls, Plain call.template) →
      (∀ e, assembler.assemble task execution ≠ .error (.render e)) ∧
      (∀ changesets, assembler.assemble task execution = .ok changesets →
        (∀ changeset ∈ changesets, changeset.Copies task.template.withoutFinalBreaks) ∧
        ∃ first rest, changesets = first :: rest ∧
          first.headRef = refOfBranch task.template.withoutFinalBreaks.branch) ∧
      (task.template.withoutFinalBreaks = task.template ↔
        ∀ call ∈ task.template.plannedCalls, ¬ EndsInBreak call.template) := by
  refine ⟨fun template hplain => ?_, fun task execution hplain => ?_⟩
  · have hrenders (field : String) (context : Context) :
        assembler.renderer field template context = .ok (withoutFinalBreak template) := by
      rw [hstandard, Renderer.standard_of_plain hplain]
    refine ⟨hrenders, fun field context => ?_, fun hends => ?_⟩
    · rw [hrenders, Except.ok.injEq, Template.withoutFinalBreak_eq_self_iff]
    · exact ((Template.withoutFinalBreak_cases template).resolve_right fun hno => hno.1 hends).2
  · refine ⟨assemble_ne_render_of_rendersAll (rendersAll_of_plain hstandard hplain),
      fun changesets h => ?_, ChangesetTemplate.withoutFinalBreaks_eq_self_iff⟩
    obtain ⟨rendered, diffs, hrenders, hdiffs, hmade⟩ := assemble_eq_ok_iff.1 h
    obtain ⟨diff, entries, hentries⟩ := entries_eq_cons_of_branchDiffs hdiffs
    have hbranch : rendered.branch = withoutFinalBreak task.template.branch :=
      eq_withoutFinalBreak hstandard
        (hplain ⟨"branch", task.template.branch⟩ (by simp [ChangesetTemplate.plannedCalls]))
        hrenders.branch
    refine ⟨fun changeset hmem => ?_, ?_⟩
    · obtain ⟨entry, -, hentry⟩ := exists_mem_of_forall₂ hmade.flip hmem
      exact hentry.copies hstandard hplain hrenders
    · rw [hentries] at hmade
      obtain ⟨first, rest, hfirst, -, rfl⟩ := List.forall₂_cons_left_iff.1 hmade
      exact ⟨first, rest, rfl, hfirst.headRef.trans (congrArg refOfBranch hbranch)⟩

/-- A task without groups whose texts have line breaks and parts of delimiters in them. -/
def nearDelimiters : Task :=
  { twoGroups "" "" with
    template :=
      { title := "Use \x7b\x7b x \x7d\x7d and \x7b% y %\x7d for $"
        body := "\n$ \x7b# z #\x7d\r\n\r\n$\x7b"
        branch := "hello-world"
        commit := { message := "Msg\n\n$$", author := some ⟨"$\x7b", "%\x7d\x7d"⟩ } }
    groups := none }

theorem renders_plain_nearDelimiters :
    (∀ call ∈ nearDelimiters.template.plannedCalls, Plain call.template) ∧
    ∃ changeset, full.assemble nearDelimiters twoFiles = .ok [changeset] ∧
      changeset.Copies nearDelimiters.template := by
  have hplain : ∀ call ∈ nearDelimiters.template.plannedCalls, Plain call.template := by
    decide +kernel
  have hone : ∃ changeset, full.assemble nearDelimiters twoFiles = .ok [changeset] :=
    ⟨{ plainChangeset "refs/heads/hello-world" twoFiles.diff with
        title := nearDelimiters.template.title
        body := nearDelimiters.template.body
        commits := [⟨"Msg\n\n$$", "$\x7b", "%\x7d\x7d", twoFiles.diff⟩] }, by decide +kernel⟩
  obtain ⟨changeset, hassemble⟩ := hone
  obtain ⟨-, hcopies, hself⟩ :=
    (renders_plain_to_itself_iff full rfl).2 nearDelimiters twoFiles hplain
  have hcopy := (hcopies _ hassemble).1 changeset (List.mem_singleton_self changeset)
  rw [hself.2 (by decide +kernel)] at hcopy
  exact ⟨hplain, changeset, hassemble, hcopy⟩

/-- A task without groups with a body that ends in a line break. -/
def finalBreak : Task :=
  { twoGroups "" "" with
    template :=
      { title := "Hello", body := "Hello\n", branch := "hello-world", commit := { message := "Msg" } }
    groups := none }

/-- The line break at the end of a body without delimiters is lost. -/
theorem not_renders_to_itself_finalBreak :
    Plain "Hello\n" ∧
      Renderer.standard "body" "Hello\n" (Context.ofTask finalBreak twoFiles) = .ok "Hello" ∧
      full.assemble finalBreak twoFiles =
        .ok [{ plainChangeset "refs/heads/hello-world" twoFiles.diff with body := "Hello" }] ∧
      finalBreak.template.body ≠ "Hello" := by
  decide +kernel

end Assembler

end Changesets
