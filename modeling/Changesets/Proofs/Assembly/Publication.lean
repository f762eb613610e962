import Changesets.Proofs.Assembly.HeadRef
import Changesets.Proofs.Assembly.Precedence
import Changesets.Proofs.Publication.Policy

/-!
The publication values of the changesets of a task. A policy is asked about a branch under the name
that the task has for it, and a changeset gives the name of its head branch without the prefix of its
ref. The two are the same unless the task names the branch with the prefix.
-/
namespace Changesets

open Template (Context)

/-- The value that a service is sent. One that needs a value gets `false` for none. -/
def Service.Features.settle (features : Features) (value : Publication.Value) :
    Publication.Value :=
  if value = .absent ∧ features.allowOptionalPublished = false then .explicit false else value

/-- The name of the head branch is that of the branch without the prefix of its ref. -/
theorem branch_of_headRef {changeset : Changeset} {branch : String}
    (h : changeset.headRef = refOfBranch branch) :
    changeset.branch = Text.withoutStart branchRefPrefix branch := by
  rw [Changeset.branch, h]
  cases hstart : Text.startsWith branchRefPrefix branch with
  | true => rw [refOfBranch_of_startsWith hstart]
  | false =>
      rw [refOfBranch_of_not_startsWith hstart, Text.withoutStart_append,
        Text.withoutStart_eq_self hstart]

/-- The task with another policy in its template. -/
def Task.withPolicy (task : Task) (policy : Publication.Policy) : Task :=
  { task with template := { task.template with published := some policy } }

theorem Task.withPolicy_eq_self {task : Task} {policy : Publication.Policy}
    (h : task.template.published = some policy) : task.withPolicy policy = task := by
  rw [withPolicy, ← h]

/-- The changeset is on the branch, and the policy gives its value for the name that the branch has
in the task. -/
structure Changeset.PublishedAs (features : Service.Features) (policy : Publication.Policy)
    (repository name : String) (changeset : Changeset) : Prop where
  headRef : changeset.headRef = refOfBranch name
  branch : changeset.branch = Text.withoutStart branchRefPrefix name
  published : changeset.published = features.settle (policy.valueFor repository name)

/-- The policy gives the value of the changeset for the name of its head branch. -/
def Changeset.FollowsHeadBranch (features : Service.Features) (policy : Publication.Policy)
    (repository : String) (changeset : Changeset) : Prop :=
  changeset.published = features.settle (policy.valueFor repository changeset.branch)

namespace Assembler

open Changeset (PublishedAs FollowsHeadBranch)

section
variable {assembler : Assembler} {task : Task} {execution : Execution}
  {policy : Publication.Policy}

theorem published_of_policy (h : task.template.published = some policy) (name : String) :
    assembler.published task name =
      .ok (assembler.features.settle (policy.valueFor task.repository.name name)) := by
  rw [published, h]
  cases hvalue : policy.valueFor task.repository.name name <;>
    cases hneeds : assembler.features.allowOptionalPublished <;>
      simp [Service.Features.settle, hvalue, hneeds]

theorem MadeFrom.publishedAs {rendered : Rendered} {entry : BranchDiff} {changeset : Changeset}
    (hpolicy : task.template.published = some policy)
    (h : assembler.MadeFrom task rendered entry changeset) :
    PublishedAs assembler.features policy task.repository.name entry.branch changeset :=
  ⟨h.headRef, branch_of_headRef h.headRef,
    (Except.ok.inj ((published_of_policy hpolicy entry.branch).symm.trans h.published)).symm⟩

/-- The branches of an assembly do not depend on the policy, and each has a changeset with the value
that the policy gives. -/
theorem forall₂_publishedAs {changesets : List Changeset} {rendered : Rendered}
    {diffs : BranchDiffs}
    (hrenders : assembler.Renders (Context.ofTask task execution) task.template rendered)
    (hdiffs : branchDiffs task execution rendered.branch = .ok diffs)
    (h : assembler.assemble (task.withPolicy policy) execution = .ok changesets) :
    List.Forall₂ (PublishedAs assembler.features policy task.repository.name) diffs.branches
      changesets := by
  obtain ⟨rendered', diffs', hrenders', hdiffs', hmade⟩ := assemble_eq_ok_iff.1 h
  have hbranch : rendered.branch = rendered'.branch :=
    Except.ok.inj (hrenders.branch.symm.trans hrenders'.branch)
  rw [hbranch] at hdiffs
  obtain rfl := Except.ok.inj (hdiffs.symm.trans hdiffs')
  rw [BranchDiffs.branches, List.forall₂_map_left_iff]
  refine hmade.imp fun entry changeset hentry => ?_
  -- the policy does not touch the name of the repository, so this is about the same values
  have hpublished := hentry.publishedAs
    (show (task.withPolicy policy).template.published = some policy from rfl)
  exact hpublished

theorem exists_assemble_withPolicy {changesets : List Changeset}
    (h : assembler.assemble task execution = .ok changesets) (policy : Publication.Policy) :
    ∃ changesets, assembler.assemble (task.withPolicy policy) execution = .ok changesets := by
  obtain ⟨hall, hsplits, -⟩ := exists_assemble_eq_ok_iff.1 ⟨changesets, h⟩
  exact exists_assemble_eq_ok_iff.2 ⟨hall, hsplits, fun hnone => nomatch hnone⟩

/-- Where no branch is named with the prefix of its ref, the values are those of the head branches. -/
theorem followsHeadBranch_of_forall₂ {features : Service.Features} {repository : String}
    {names : List String} {changesets : List Changeset}
    (h : List.Forall₂ (PublishedAs features policy repository) names changesets)
    (hnames : ∀ name ∈ names, Text.startsWith branchRefPrefix name = false) :
    ∀ changeset ∈ changesets, changeset.FollowsHeadBranch features policy repository := by
  intro changeset hmem
  obtain ⟨name, hname, hpublished⟩ := exists_mem_of_forall₂ h.flip hmem
  rw [FollowsHeadBranch, hpublished.branch, Text.withoutStart_eq_self (hnames name hname)]
  exact hpublished.published

/-- A policy for the name of a branch with the prefix of its ref says nothing about the name of the
head branch. -/
theorem exists_not_followsHeadBranch {name : String} (h : Text.startsWith branchRefPrefix name) :
    ∃ policy, Publication.Policy.override {} ("*@" ++ name) .draft = .ok policy ∧
      ∀ features repository changeset, PublishedAs features policy repository name changeset →
        ¬ changeset.FollowsHeadBranch features policy repository := by
  have hname := Text.append_withoutStart h
  have hnonempty : name ≠ "" := by
    intro hempty
    rw [hempty] at h
    exact absurd h (by decide)
  have hother : Text.withoutStart branchRefPrefix name ≠ name := by
    intro heq
    rw [heq] at hname
    have hlength := congrArg String.length hname
    have hprefix : branchRefPrefix.length = 11 := by decide
    rw [String.length_append] at hlength
    omega
  obtain ⟨policy, hpolicy, hvalue⟩ :=
    Publication.Policy.exists_override_branch hnonempty .draft
  refine ⟨policy, hpolicy, fun features repository changeset hpublished hfollows => ?_⟩
  have heq := hpublished.published.symm.trans hfollows
  rw [hpublished.branch, hvalue, hvalue, if_pos rfl, if_neg hother] at heq
  cases hneeds : features.allowOptionalPublished <;> simp [Service.Features.settle, hneeds] at heq

/-- The policy is asked about a branch under the name that the branch has in the task. What it gives
is right for the head branch whatever the policy is, if and only if no branch of the task is named
with the prefix of its ref. -/
theorem followsHeadBranch_iff_forall_not_startsWith (assembler : Assembler) (task : Task)
    (execution : Execution) {changesets : List Changeset}
    (h : assembler.assemble task execution = .ok changesets)
    (hpolicy : task.template.published = some policy) :
    ∃ branch names,
      assembler.renderer "branch" task.template.branch (Context.ofTask task execution) =
        .ok branch ∧
      HasBranches task execution branch names ∧
      List.Forall₂ (PublishedAs assembler.features policy task.repository.name) names changesets ∧
      ((∀ name ∈ names, Text.startsWith branchRefPrefix name = false) →
        ∀ changeset ∈ changesets,
          changeset.FollowsHeadBranch assembler.features policy task.repository.name) ∧
      ((∀ name ∈ names, Text.startsWith branchRefPrefix name = false) ↔
        ∀ other changesets, assembler.assemble (task.withPolicy other) execution = .ok changesets →
          ∀ changeset ∈ changesets,
            changeset.FollowsHeadBranch assembler.features other task.repository.name) := by
  obtain ⟨rendered, diffs, hrenders, hdiffs, -⟩ := assemble_eq_ok_iff.1 h
  have hpublished {other : Publication.Policy} {changesets : List Changeset}
      (hother : assembler.assemble (task.withPolicy other) execution = .ok changesets) :
      List.Forall₂ (PublishedAs assembler.features other task.repository.name) diffs.branches
        changesets :=
    forall₂_publishedAs hrenders hdiffs hother
  have hself : assembler.assemble (task.withPolicy policy) execution = .ok changesets := by
    rwa [Task.withPolicy_eq_self hpolicy]
  refine ⟨rendered.branch, diffs.branches, hrenders.branch, hasBranches_of_branchDiffs hdiffs,
    hpublished hself, followsHeadBranch_of_forall₂ (hpublished hself), fun hnames other _ hother =>
      followsHeadBranch_of_forall₂ (hpublished hother) hnames, fun hall name hname => ?_⟩
  rw [Bool.eq_false_iff]
  intro hstart
  obtain ⟨other, -, hnot⟩ := exists_not_followsHeadBranch hstart
  obtain ⟨changesets', hother⟩ := exists_assemble_withPolicy h other
  obtain ⟨changeset, hmem, hnamed⟩ := exists_mem_of_forall₂ (hpublished hother) hname
  exact hnot _ _ _ hnamed (hall other changesets' hother changeset hmem)

end

/-- The policy of the one rule `*@topic: true`. -/
def topicPolicy : Publication.Policy :=
  ⟨[⟨[.anySequence], some "topic", .explicit true⟩]⟩

/-- A task without groups whose branch is spelled as given. -/
def topicTask (branch : String) : Task :=
  { twoGroups "" "" with
    groups := none
    template :=
      { title := "Hello", branch, commit := { message := "Msg" }, published := some topicPolicy } }

theorem followsHeadBranch_topic :
    ∃ changesets, full.assemble (topicTask "topic") twoFiles = .ok changesets ∧
      (topicTask "topic").template.published = some topicPolicy ∧
      ∀ changeset ∈ changesets, changeset.published = .explicit true ∧
        changeset.FollowsHeadBranch full.features topicPolicy "github.com/acme/app" := by
  have h : full.assemble (topicTask "topic") twoFiles = .ok
      [{ plainChangeset "refs/heads/topic" twoFiles.diff with published := .explicit true }] := by
    decide +kernel
  obtain ⟨branch, names, hbranch, hnames, -, hfollows, -⟩ :=
    followsHeadBranch_iff_forall_not_startsWith full (topicTask "topic") twoFiles h rfl
  have hplain : full.renderer "branch" (topicTask "topic").template.branch
      (Context.ofTask (topicTask "topic") twoFiles) = .ok "topic" := by decide +kernel
  obtain rfl := Except.ok.inj (hplain.symm.trans hbranch)
  have hsingle : names = ["topic"] := by
    cases hnames with
    | single _ => rfl
    | grouped hgroups _ => exact absurd rfl hgroups
  rw [hsingle] at hfollows
  refine ⟨_, h, rfl, fun changeset hmem => ⟨?_, hfollows (by decide) changeset hmem⟩⟩
  rw [List.mem_singleton.1 hmem]

/-- With the prefix in the name of the branch the rule does not apply to its changeset. -/
theorem not_followsHeadBranch_refTopic :
    Publication.Policy.override {} "*@topic" (.explicit true) = .ok topicPolicy ∧
      ∃ changeset,
        full.assemble (topicTask "refs/heads/topic") twoFiles = .ok [changeset] ∧
        changeset.branch = "topic" ∧ changeset.published = .absent ∧
        topicPolicy.valueFor "github.com/acme/app" changeset.branch = .explicit true ∧
        ¬ changeset.FollowsHeadBranch full.features topicPolicy "github.com/acme/app" := by
  refine ⟨by decide +kernel, plainChangeset "refs/heads/topic" twoFiles.diff, by decide +kernel,
    by decide +kernel, rfl, by decide +kernel, ?_⟩
  rw [Changeset.FollowsHeadBranch]
  decide +kernel

end Assembler

end Changesets
