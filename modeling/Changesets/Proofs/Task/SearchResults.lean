import Changesets.Proofs.Assembly.HeadRef
import Changesets.Proofs.Text.Order

/-!
The search results of a repository that templates see. They are its file matches as a set: each path
once, in the order of the bytes, however often and in whatever order the matches list it.
-/
namespace Changesets

open Template (Context)

theorem mem_dropRepeats {text : String} {texts : List String} :
    text ∈ dropRepeats texts ↔ text ∈ texts := by
  fun_induction dropRepeats texts with
  | case1 a rest ih => rw [ih, List.mem_cons, List.mem_cons, List.mem_cons, ← or_assoc, or_self]
  | case2 a b rest hne ih => rw [List.mem_cons, ih, @List.mem_cons _ a]
  | case3 texts hshort => rfl

/-- Of texts in order, those that are left have no repetitions, since equal ones are neighbours. -/
theorem increasing_dropRepeats {texts : List String}
    (h : texts.Pairwise fun a b => Text.bytes a ≤ Text.bytes b) :
    Text.Increasing (dropRepeats texts) := by
  fun_induction dropRepeats texts with
  | case1 a rest ih => exact ih h.of_cons
  | case2 a b rest hne ih =>
      obtain ⟨hfirst, hrest⟩ := List.pairwise_cons.1 h
      refine Text.increasing_cons.2 ⟨fun text htext => ?_, ih hrest⟩
      have hb : Text.bytes a < Text.bytes b :=
        (Text.bytes_lt_or_lt_of_ne hne).resolve_right (List.not_lt.2 (hfirst b List.mem_cons_self))
      rcases List.mem_cons.1 (mem_dropRepeats.1 htext) with rfl | htext
      · exact hb
      · have htext := (List.pairwise_cons.1 hrest).1 text htext
        exact List.not_le.1 fun hle => List.not_le.2 hb (List.le_trans htext hle)
  | case3 texts hshort =>
      match texts with
      | [] => exact .nil
      | [text] => exact List.pairwise_singleton _ text
      | a :: b :: rest => exact absurd rfl (hshort a b rest)

namespace Repository

theorem mem_searchResultPaths {repository : Repository} {path : String} :
    path ∈ repository.searchResultPaths ↔ path ∈ repository.fileMatches := by
  rw [searchResultPaths, mem_dropRepeats, List.mem_mergeSort]

theorem increasing_searchResultPaths (repository : Repository) :
    Text.Increasing repository.searchResultPaths := by
  have hle {a b : String} : (!Text.precedes b a) = true ↔ Text.bytes a ≤ Text.bytes b := by
    rw [Bool.not_eq_true', ← Bool.not_eq_true, Text.precedes_iff, List.not_lt]
  apply increasing_dropRepeats
  refine List.Pairwise.imp (fun h => hle.1 h) (List.pairwise_mergeSort ?_ ?_ _)
  · intro a b c hab hbc
    exact hle.2 (List.le_trans (hle.1 hab) (hle.1 hbc))
  · intro a b
    rw [Bool.or_eq_true, hle, hle]
    exact List.le_total _ _

theorem searchResultPaths_congr {repository other : Repository}
    (h : ∀ path, path ∈ repository.fileMatches ↔ path ∈ other.fileMatches) :
    repository.searchResultPaths = other.searchResultPaths := by
  apply (increasing_searchResultPaths repository).eq_of_mem_iff (increasing_searchResultPaths other)
  intro path
  rw [mem_searchResultPaths, mem_searchResultPaths, h]

end Repository

/-! ## Assemblies -/

/-- The task for a repository that was selected by other file matches. -/
def Task.withFileMatches (task : Task) (paths : List String) : Task :=
  { task with repository := task.repository.withFileMatches paths }

section
variable {task : Task} {paths others : List String}

theorem ofTask_withFileMatches (h : ∀ path, path ∈ paths ↔ path ∈ others) (execution : Execution) :
    Context.ofTask (task.withFileMatches paths) execution =
      Context.ofTask (task.withFileMatches others) execution := by
  have hpaths : (task.withFileMatches paths).repository.searchResultPaths =
      (task.withFileMatches others).repository.searchResultPaths :=
    Repository.searchResultPaths_congr h
  rw [Context.ofTask, Context.ofTask, hpaths]
  rfl

theorem Assembler.run_withFileMatches (assembler : Assembler)
    (h : ∀ path, path ∈ paths ↔ path ∈ others) (execution : Execution) :
    assembler.run (task.withFileMatches paths) execution =
      assembler.run (task.withFileMatches others) execution := by
  -- once the templates are rendered, no stage looks at the file matches
  have hchangesets : assembler.changesets (task.withFileMatches paths) execution =
      assembler.changesets (task.withFileMatches others) execution := rfl
  have htemplate : (task.withFileMatches paths).template =
      (task.withFileMatches others).template := rfl
  rw [run, run, ofTask_withFileMatches h, htemplate, hchangesets]

end

/-- The search results are the file matches in strictly increasing order. Tasks that differ in the
order and in repetitions of their file matches have one context and one outcome. -/
theorem fileMatches_as_set :
    (∀ repository : Repository, Text.Increasing repository.searchResultPaths ∧
      ∀ path, path ∈ repository.searchResultPaths ↔ path ∈ repository.fileMatches) ∧
    ∀ (task : Task) (paths others : List String), (∀ path, path ∈ paths ↔ path ∈ others) →
      ∀ execution : Execution,
        Context.ofTask (task.withFileMatches paths) execution =
          Context.ofTask (task.withFileMatches others) execution ∧
        ∀ assembler : Assembler,
          assembler.assemble (task.withFileMatches paths) execution =
            assembler.assemble (task.withFileMatches others) execution ∧
          assembler.calls (task.withFileMatches paths) execution =
            assembler.calls (task.withFileMatches others) execution := by
  refine ⟨fun repository => ?_, fun task paths others h execution => ?_⟩
  · exact ⟨repository.increasing_searchResultPaths, fun _ => Repository.mem_searchResultPaths⟩
  · refine ⟨ofTask_withFileMatches h execution, fun assembler => ?_⟩
    have hrun : assembler.run (task.withFileMatches paths) execution =
        assembler.run (task.withFileMatches others) execution :=
      assembler.run_withFileMatches h execution
    exact ⟨congrArg Prod.fst hrun, congrArg Prod.snd hrun⟩

/-- A task whose title lists the search results. -/
def listingMatches : Task :=
  { Assembler.twoGroups "" "" with
    template :=
      { title := "Change $\x7b\x7b repository.search_result_paths | join(\", \") \x7d\x7d"
        branch := "hello-world"
        commit := { message := "Msg" } }
    groups := none }

theorem searchResultPaths_listingMatches :
    (listingMatches.withFileMatches ["b.go", "a.go"]).repository.searchResultPaths =
      ["a.go", "b.go"] := by
  refine (Repository.increasing_searchResultPaths _).eq_of_mem_iff (by decide) fun path => ?_
  rw [Repository.mem_searchResultPaths]
  exact (List.Perm.swap "a.go" "b.go" []).mem_iff

/-- Matches that are listed twice and out of order give the title that they give in order. -/
theorem fileMatches_as_set_listingMatches :
    (∀ path, path ∈ ["b.go", "a.go", "b.go"] ↔ path ∈ ["b.go", "a.go"]) ∧
    Assembler.full.assemble (listingMatches.withFileMatches ["b.go", "a.go", "b.go"])
        Assembler.twoFiles =
      .ok [{ Assembler.plainChangeset "refs/heads/hello-world" Assembler.twoFiles.diff with
        title := "Change a.go, b.go" }] := by
  have hsame : ∀ path, path ∈ ["b.go", "a.go", "b.go"] ↔ path ∈ ["b.go", "a.go"] := by
    grind
  have hcontext : Context.ofTask (listingMatches.withFileMatches ["b.go", "a.go"])
      Assembler.twoFiles = ⟨⟨"", ""⟩, ⟨[], [], [], [], ""⟩, [], "github.com/acme/app",
        ["a.go", "b.go"]⟩ := by
    rw [Context.ofTask, searchResultPaths_listingMatches]
    rfl
  refine ⟨hsame, ?_⟩
  rw [((fileMatches_as_set.2 listingMatches _ _ hsame Assembler.twoFiles).2 Assembler.full).1,
    Assembler.assemble_eq_bind, hcontext]
  decide +kernel

end Changesets
