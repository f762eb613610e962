import Changesets.Changeset.Wire
import Changesets.Proofs.Assembly.Publication

/-!
The publication values that the service is sent. They are those of the policy, each for the branch
of its changeset, and a service that needs a value always gets one. In JSON an absent value is left
out.
-/
namespace Changesets

open Template (Context)

/-! ## In JSON -/

def Json.HasMember (j : Json) (key : String) (value : Json) : Prop :=
  ∃ members, j = .object members ∧ (key, value) ∈ members

theorem Changeset.hasMember_published_iff {changeset : Changeset} {j : Json} :
    changeset.toJson.HasMember "published" j ↔
      changeset.published ≠ .absent ∧ j = changeset.published.toJson := by
  simp only [Json.HasMember, toJson, Json.object.injEq, exists_eq_left', List.mem_append]
  by_cases h : changeset.published = .absent <;> simp [h]

namespace Publication

/-- The JSON values that the service takes for a publication value. -/
inductive Value.Sent : Json → Prop
  | published : Value.Sent (.bool true)
  | unpublished : Value.Sent (.bool false)
  | draft : Value.Sent (.string "draft")

theorem Value.sent_toJson {value : Value} (h : value ≠ .absent) : Value.Sent value.toJson := by
  cases value with
  | absent => exact absurd rfl h
  | explicit published =>
      cases published with
      | true => exact .published
      | false => exact .unpublished
  | draft => exact .draft

theorem Value.not_sent_null : ¬ Value.Sent .null := by
  intro h
  cases h

end Publication

theorem Service.Features.settle_ne_absent {features : Features}
    (h : features.allowOptionalPublished = false) (value : Publication.Value) :
    features.settle value ≠ .absent := by
  rw [settle]
  split
  · simp
  · next hvalue => exact fun heq => hvalue ⟨heq, h⟩

/-! ## In an assembly -/

namespace Assembler

variable {assembler : Assembler} {task : Task}

theorem published_of_no_policy (h : task.template.published = none) {name : String}
    {value : Publication.Value} (hvalue : assembler.published task name = .ok value) :
    assembler.features.allowOptionalPublished = true ∧ value = .absent := by
  rw [published, h] at hvalue
  cases hallow : assembler.features.allowOptionalPublished with
  | false => simp [hallow] at hvalue
  | true =>
      simp only [hallow, if_pos, Except.ok.injEq] at hvalue
      exact ⟨rfl, hvalue.symm⟩

theorem MadeFrom.published_ne_absent {rendered : Rendered} {entry : BranchDiff}
    {changeset : Changeset} (h : assembler.MadeFrom task rendered entry changeset)
    (hneeds : assembler.features.allowOptionalPublished = false) :
    changeset.published ≠ .absent := by
  cases hpolicy : task.template.published with
  | none =>
      obtain ⟨hallow, -⟩ := published_of_no_policy hpolicy h.published
      cases hallow.symm.trans hneeds
  | some policy =>
      rw [(h.publishedAs hpolicy).published]
      exact Service.Features.settle_ne_absent hneeds _

/-- Without a policy no changeset has a value, and the service must do without. With one, each
changeset has the value of the policy for its branch, except that a service which needs a value is
sent `false` for none. The JSON of a changeset has its value as a member, and no such member where
the value is absent. -/
theorem assemble_published_sent (assembler : Assembler) (task : Task) (execution : Execution)
    {changesets : List Changeset} (h : assembler.assemble task execution = .ok changesets) :
    ∃ rendered diffs,
      assembler.Renders (Context.ofTask task execution) task.template rendered ∧
      branchDiffs task execution rendered.branch = .ok diffs ∧
      (task.template.published = none → assembler.features.allowOptionalPublished = true ∧
        ∀ changeset ∈ changesets, changeset.published = .absent) ∧
      (∀ policy, task.template.published = some policy →
        List.Forall₂ (fun entry changeset => changeset.headRef = refOfBranch entry.branch ∧
          changeset.published =
            assembler.features.settle (policy.valueFor task.repository.name entry.branch))
          diffs.entries changesets) ∧
      (assembler.features.allowOptionalPublished = false → ∀ changeset ∈ changesets,
        ∃ j, changeset.toJson.HasMember "published" j ∧ Publication.Value.Sent j) ∧
      ∀ changeset : Changeset, ¬ changeset.toJson.HasMember "published" .null ∧
        ((∃ j, changeset.toJson.HasMember "published" j) ↔ changeset.published ≠ .absent) := by
  obtain ⟨rendered, diffs, hrenders, hdiffs, hmade⟩ := assemble_eq_ok_iff.1 h
  have hentry : ∀ changeset ∈ changesets, ∃ entry ∈ diffs.entries,
      assembler.MadeFrom task rendered entry changeset :=
    fun changeset hmem => exists_mem_of_forall₂ hmade.flip hmem
  refine ⟨rendered, diffs, hrenders, hdiffs, fun hpolicy => ⟨?_, fun changeset hmem => ?_⟩,
    fun policy hpolicy => ?_, fun hneeds changeset hmem => ?_, fun changeset => ⟨?_, ?_⟩⟩
  · exact (exists_assemble_eq_ok_iff.1 ⟨changesets, h⟩).2.2 hpolicy
  · obtain ⟨entry, -, hfrom⟩ := hentry changeset hmem
    exact (published_of_no_policy hpolicy hfrom.published).2
  · exact hmade.imp fun entry changeset hfrom =>
      ⟨hfrom.headRef, (hfrom.publishedAs hpolicy).published⟩
  · obtain ⟨entry, -, hfrom⟩ := hentry changeset hmem
    have hvalue := hfrom.published_ne_absent hneeds
    exact ⟨_, Changeset.hasMember_published_iff.2 ⟨hvalue, rfl⟩,
      Publication.Value.sent_toJson hvalue⟩
  · intro hnull
    obtain ⟨hvalue, hjson⟩ := Changeset.hasMember_published_iff.1 hnull
    exact Publication.Value.not_sent_null (hjson ▸ Publication.Value.sent_toJson hvalue)
  · constructor
    · intro hsome
      obtain ⟨j, hj⟩ := hsome
      exact (Changeset.hasMember_published_iff.1 hj).1
    · exact fun hvalue => ⟨_, Changeset.hasMember_published_iff.2 ⟨hvalue, rfl⟩⟩

/-- An assembler for a service that needs a value. -/
def older : Assembler :=
  { full with features := { allowOptionalPublished := false, includeAutoAuthorDetails := true } }

/-- A task of three branches with the policy of the one rule `*@topic: draft`. -/
def draftTopic : Task :=
  (twoGroups "topic" "other").withPolicy ⟨[⟨[.anySequence], some "topic", .draft⟩]⟩

theorem assemble_published_sent_draftTopic :
    ∃ changesets, older.assemble draftTopic twoFiles = .ok changesets ∧
      changesets.map (·.published) = [.explicit false, .draft, .explicit false] ∧
      ∀ changeset ∈ changesets,
        ∃ j, changeset.toJson.HasMember "published" j ∧ Publication.Value.Sent j := by
  have h : older.assemble draftTopic twoFiles = .ok
      [{ plainChangeset "refs/heads/hello-world" "" with published := .explicit false },
        { plainChangeset "refs/heads/topic" "--- a/one\n+++ b/one\n" with published := .draft },
        { plainChangeset "refs/heads/other" "--- a/two\n+++ b/two\n" with
          published := .explicit false }] := by decide +kernel
  obtain ⟨-, -, -, -, -, -, hsent, -⟩ := assemble_published_sent _ _ _ h
  exact ⟨_, h, rfl, hsent rfl⟩

end Assembler

end Changesets
