import Changesets.Proofs.Assembly.HeadRef
import Changesets.Proofs.Task.Declaration

/-!
Assemblies of what is read from JSON. A declared task comes to the same whether it is read or built:
to the same outcome with the same renderings, or to the error of the first override without a glob.
-/
namespace Changesets

open Json (Reorders)
open Publication (IsKey Policy)

/-- Reads a task and a result from JSON, and assembles them. -/
def Assembler.runJson (assembler : Assembler) (task execution : Json) :
    Except Json.Fault (Except AssemblyError (List Changeset) × List RenderCall) := do
  let task ← Task.decode task
  let execution ← Execution.decode execution
  return assembler.run task execution

theorem ChangesetTemplate.Declaration.exists_build_eq_ok_iff
    {declaration : ChangesetTemplate.Declaration} :
    (∃ template, declaration.build = .ok template) ↔
      ∀ given ∈ declaration.overrides, ∀ entry ∈ given, IsKey entry.1 := by
  rw [build]
  cases declaration.overrides with
  | none => simp
  | some given =>
      simp only [Option.elim_some, Option.mem_some_iff, forall_eq']
      rw [← Policy.exists_overrides_eq_ok_iff]
      cases Policy.overrides {} given <;> simp

theorem Task.Declaration.exists_build_eq_ok_iff {declaration : Task.Declaration} :
    (∃ task, declaration.build = .ok task) ↔
      ∀ given ∈ declaration.template.overrides, ∀ entry ∈ given, IsKey entry.1 := by
  rw [← ChangesetTemplate.Declaration.exists_build_eq_ok_iff, build]
  cases declaration.template.build <;> simp

theorem Task.Declaration.build_eq_error_of_overrides {declaration : Task.Declaration}
    {given : List (String × Publication.Value)} (hgiven : given ∈ declaration.template.overrides)
    {e : Publication.Error} (h : Policy.overrides {} given = .error e) :
    declaration.build = .error e :=
  map_eq_error_iff.2 (ChangesetTemplate.Declaration.build_eq_error_iff.2 ⟨given, hgiven, h⟩)

/-- What is read of a declared task and a declared result is what is built of them, in whatever order
the members stand, and every assembler gives one outcome for both. Nothing is built or read if some
override has no glob, and then both fail with the message of the first one that has none. -/
theorem declared_read_as_built (task : Task.Declaration) (execution : Execution.Declaration)
    {j k : Json} (hj : Reorders task.toJson j) (hk : Reorders execution.toJson k)
    (hordered : k.Ordered) :
    Task.decode j = task.build.mapError .publication ∧
    Execution.decode k = .ok execution.build ∧
    (∀ assembler : Assembler, assembler.runJson j k =
      (task.build.mapError .publication).map fun built => assembler.run built execution.build) ∧
    ((∃ built, task.build = .ok built) ↔
      ∀ given ∈ task.template.overrides, ∀ entry ∈ given, IsKey entry.1) ∧
    ∀ given ∈ task.template.overrides, (∃ entry ∈ given, ¬ IsKey entry.1) →
      ∃ before key value after policy e, given = before ++ (key, value) :: after ∧
        Policy.overrides {} before = .ok policy ∧ policy.override key value = .error e ∧
        ∃ fault, Task.decode j = .error fault ∧ fault.message = e.message := by
  have htask := task.decode_of_reorders hj
  have hexecution := execution.decode_of_reorders hk hordered
  refine ⟨htask, hexecution, fun assembler => ?_, Task.Declaration.exists_build_eq_ok_iff,
    fun given hgiven hfaulty => ?_⟩
  · rw [Assembler.runJson, htask, hexecution]
    cases task.build <;> rfl
  · cases hpolicy : Policy.overrides {} given with
    | ok policy =>
        obtain ⟨entry, hentry, hkey⟩ := hfaulty
        exact absurd (Policy.exists_overrides_eq_ok_iff.1 ⟨policy, hpolicy⟩ entry hentry) hkey
    | error e =>
        obtain ⟨before, key, value, after, policy, hparts, hbefore, hfirst⟩ :=
          Policy.overrides_eq_error_iff.1 hpolicy
        rw [Task.Declaration.build_eq_error_of_overrides hgiven hpolicy] at htask
        exact ⟨before, key, value, after, policy, e, hparts, hbefore, hfirst, _, htask, rfl⟩

/-- A task with search results, overrides and a group for all repositories, that leaves out the rest. -/
def groupedTask (overrides : List (String × Publication.Value))
    (h : ∀ entry ∈ overrides, entry.2 ≠ .absent) : Task.Declaration :=
  { repository :=
      { id := "UmVwbzox", name := "github.com/acme/app", baseRef := "refs/heads/main"
        baseRev := "d34db33f", fileMatches := some ["b.go", "a.go"] }
    template :=
      { title := "Hello", branch := "hello-world", message := "Msg", overrides := some overrides
        overrides_stated := by simpa using h }
    transformChanges := some { groups := some [{ directory := "one", branch := "topic" }] } }

def draftedTask : Task.Declaration :=
  groupedTask [("github.com/acme/*", .draft)] (by simp)

/-- The last two overrides have no glob. -/
def misspelledTask : Task.Declaration :=
  groupedTask [("*", .draft), ("[", .explicit true), ("***", .draft)] (by simp)

/-- A result with two outputs, of which the one with the later key comes first. -/
def release : Execution.Declaration where
  diff := "--- a/one\n+++ b/one\n"
  outputs := some [("version", .string "1.2.3"), ("major", .int 1)]
  path := some "web"
  outputs_ordered := by
    intro given hgiven
    obtain rfl := Option.some.inj hgiven
    exact List.forall_mem_cons.2 ⟨.string _, List.forall_mem_singleton.2 (.int _)⟩

def releaseMembers : List (String × Json) :=
  [("diff", .string "--- a/one\n+++ b/one\n"),
    ("outputs", .object [("major", .int 1), ("version", .string "1.2.3")]),
    ("path", .string "web")]

/-- Of two overrides without a glob, the one that stands first is reported. -/
theorem declared_read_as_built_release :
    Reorders release.toJson (.object releaseMembers) ∧ (Json.object releaseMembers).Ordered ∧
    Execution.decode (.object releaseMembers) = .ok release.build ∧
    (∃ task, Task.decode draftedTask.toJson = .ok task ∧ draftedTask.build = .ok task) ∧
    ∃ fault, Task.decode misspelledTask.toJson = .error fault ∧
      fault.message = "invalid repository pattern '[' in published override: " ++
        "Pattern syntax error near position 0: invalid range pattern" := by
  have houtputs : Reorders (.object [("version", .string "1.2.3"), ("major", .int 1)])
      (.object [("major", .int 1), ("version", .string "1.2.3")]) :=
    .object rfl (List.forall₂_same.2 fun j _ => .refl j) (.swap _ _ _)
  have hk : Reorders release.toJson (.object releaseMembers) :=
    .object (show _ = releaseMembers.map Prod.fst from rfl)
      (.cons (.refl _) (.cons houtputs (.cons (.refl _) .nil))) (.refl _)
  -- the two outputs, set one by one, come to stand in the order of their keys
  have hset : Json.ofMembers [("version", .string "1.2.3"), ("major", .int 1)] =
      .object [("major", .int 1), ("version", .string "1.2.3")] := by rfl
  have hordered : (Json.object releaseMembers).Ordered := by
    have hmembers := Json.ordered_ofMembers (release.outputs_ordered _ rfl)
    rw [hset] at hmembers
    exact .object (by decide) (List.forall_mem_cons.2 ⟨.string _, List.forall_mem_cons.2
      ⟨hmembers, List.forall_mem_singleton.2 (.string _)⟩⟩)
  have hglob : Policy.overrides {} [("github.com/acme/*", .draft)] =
      .ok ⟨[⟨"github.com/acme/".toList.map .literal ++ [.anySequence], none, .draft⟩]⟩ := by
    decide +kernel
  have hclass : Policy.overrides {} [("*", .draft), ("[", .explicit true), ("***", .draft)] =
      .error (.invalidPattern "[" (.invalidClass 0)) := by
    decide +kernel
  obtain ⟨hread, hexecution, -⟩ := declared_read_as_built draftedTask release (.refl _) hk hordered
  obtain ⟨hrefused, -⟩ := declared_read_as_built misspelledTask release (.refl _) hk hordered
  refine ⟨hk, hordered, hexecution, ?_, ?_⟩
  · have hbuild : draftedTask.build = .ok _ :=
      congrArg (fun policy : Except _ Policy => (policy.map _).map _) hglob
    rw [hbuild] at hread
    exact ⟨_, hread, hbuild⟩
  · rw [Task.Declaration.build_eq_error_of_overrides rfl hclass] at hrefused
    exact ⟨_, hrefused, by decide +kernel⟩

end Changesets
