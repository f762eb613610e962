import Changesets.Proofs.Grouping.Partition

/-!
Groups that do not overlap. A path is routed by the groups that cover it and by no others, so where
at most one does, it makes no difference in which order the groups are declared and which other
groups stand among them.
-/
namespace Changesets

namespace Group

/-- No two of the groups, wherever they stand, both cover the path. -/
def NoneOverlap (groups : List Group) (path : String) : Prop :=
  groups.Pairwise fun group other => ¬ (group.Covers path ∧ other.Covers path)

instance (group : Group) (path : String) : Decidable (group.Covers path) :=
  decidable_of_iff _ contains_iff_covers

/-- The groups that cover a path, in order. -/
def covering (groups : List Group) (path : String) : List Group :=
  groups.filter (·.Covers path)

theorem findRev?_eq_getLast?_covering (groups : List Group) (path : String) :
    (groups.findRev? fun group => Text.contains group.directory path) =
      (covering groups path).getLast? := by
  have hcovers : (fun group : Group => decide (group.Covers path)) =
      fun group => Text.contains group.directory path := by
    funext group
    rw [Bool.eq_iff_iff, decide_eq_true_iff, contains_iff_covers]
  rw [List.findRev?_eq_find?_reverse, ← List.head?_filter, List.filter_reverse,
    List.head?_reverse, covering, hcovers]

theorem route_congr {groups other : List Group} {path : String}
    (h : covering groups path = covering other path) (default : String) :
    route groups default path = route other default path := by
  rw [route, route, findRev?_eq_getLast?_covering, findRev?_eq_getLast?_covering, h]

theorem NoneOverlap.covering_eq {groups : List Group} {path : String}
    (h : NoneOverlap groups path) :
    covering groups path = [] ∨ ∃ group, covering groups path = [group] := by
  have hpairwise : (covering groups path).Pairwise fun _ _ => False := by
    refine (h.filter _).imp_of_mem fun hgroup hother hnot => hnot ⟨?_, ?_⟩
    · simpa using (List.mem_filter.1 hgroup).2
    · simpa using (List.mem_filter.1 hother).2
  cases hcovering : covering groups path with
  | nil => exact .inl rfl
  | cons group rest =>
      rw [hcovering, List.pairwise_cons] at hpairwise
      obtain rfl := List.eq_nil_iff_forall_not_mem.2 hpairwise.1
      exact .inr ⟨group, rfl⟩

/-- With no choice among the groups that cover a path there is none in their order either. -/
theorem NoneOverlap.covering_eq_of_perm {groups arranged inserted : List Group} {path : String}
    (h : NoneOverlap groups path) (hinserted : ∀ group ∈ inserted, ¬ group.Covers path)
    (hperm : arranged.Perm (groups ++ inserted)) :
    covering arranged path = covering groups path := by
  have hnone : covering inserted path = [] :=
    List.filter_eq_nil_iff.2 fun group hgroup => by simpa using hinserted group hgroup
  have hsame : covering (groups ++ inserted) path = covering groups path := by
    rw [covering, List.filter_append, ← covering, ← covering, hnone, List.append_nil]
  have hcovering : (covering arranged path).Perm (covering groups path) :=
    hsame ▸ hperm.filter _
  rcases h.covering_eq with hnil | ⟨group, hsingle⟩
  · rw [hnil] at hcovering ⊢
    exact hcovering.eq_nil
  · rw [hsingle] at hcovering ⊢
    exact List.perm_singleton.1 hcovering

end Group

theorem filesByBranch_congr {groups other : List Group} {default : String}
    {files : List Diff.File}
    (h : ∀ file ∈ files, Group.routeOf other default file = Group.routeOf groups default file) :
    filesByBranch other default files = filesByBranch groups default files :=
  List.foldl_ext _ _ _ fun byBranch file hfile =>
    congrArg (addToBranch · file byBranch) (h file hfile)

theorem partition_congr {text : String} {files : List Diff.File}
    (hfiles : Diff.parse text = .ok files) {groups other : List Group} {default : String}
    (h : ∀ file ∈ files, Group.routeOf other default file = Group.routeOf groups default file) :
    BranchDiffs.partition other default text = BranchDiffs.partition groups default text := by
  simp only [BranchDiffs.partition, hfiles, filesByBranch_congr h]

/-- Where no two groups cover one path, a diff is split alike, entry for entry, by the groups in any
order, and with any groups put among them that cover none of its paths. A group without a directory
covers every path. -/
theorem partition_of_noneOverlap (groups : List Group) (default text : String)
    {files : List Diff.File} (hfiles : Diff.parse text = .ok files)
    (h : ∀ file ∈ files, Group.NoneOverlap groups file.effectivePath) :
    ∃ diffs, BranchDiffs.partition groups default text = .ok diffs ∧
      ∀ arranged inserted : List Group, arranged.Perm (groups ++ inserted) →
        (∀ group ∈ inserted, ∀ file ∈ files, ¬ group.Covers file.effectivePath) →
          BranchDiffs.partition arranged default text = .ok diffs := by
  refine ⟨_, partition_eq_ok hfiles groups default, fun arranged inserted hperm hinserted => ?_⟩
  rw [← partition_eq_ok hfiles groups default]
  refine partition_congr hfiles fun file hfile => ?_
  have hnone : ∀ group ∈ inserted, ¬ group.Covers file.effectivePath :=
    fun group hgroup => hinserted group hgroup file hfile
  exact Group.route_congr ((h file hfile).covering_eq_of_perm hnone hperm) default

/-- Two plain sections without hunks. -/
def libThenDoc : List Diff.File :=
  [{ old := ⟨"a/lib", none⟩, new := ⟨"b/lib", none⟩, hasHeader := true },
    { old := ⟨"a/doc", none⟩, new := ⟨"b/doc", none⟩, hasHeader := true }]

/-- The groups in the other order, with one between them that covers neither path. The branches stay
in the order of the files. -/
theorem partition_libThenDoc_rearranged :
    Diff.parse "--- a/lib\n+++ b/lib\n--- a/doc\n+++ b/doc\n" = .ok libThenDoc ∧
      (∀ file ∈ libThenDoc,
        Group.NoneOverlap [⟨"", "lib", "one"⟩, ⟨"", "doc", "two"⟩] file.effectivePath) ∧
      BranchDiffs.partition [⟨"", "doc", "two"⟩, ⟨"", "web", "three"⟩, ⟨"", "lib", "one"⟩] "main"
          "--- a/lib\n+++ b/lib\n--- a/doc\n+++ b/doc\n" =
        .ok ⟨[⟨"main", ""⟩, ⟨"one", "--- a/lib\n+++ b/lib\n"⟩,
          ⟨"two", "--- a/doc\n+++ b/doc\n"⟩]⟩ := by
  have hparse : Diff.parse "--- a/lib\n+++ b/lib\n--- a/doc\n+++ b/doc\n" = .ok libThenDoc := by
    decide +kernel
  have hnone : ∀ file ∈ libThenDoc,
      Group.NoneOverlap [⟨"", "lib", "one"⟩, ⟨"", "doc", "two"⟩] file.effectivePath := by
    unfold Group.NoneOverlap
    decide +kernel
  obtain ⟨diffs, hdiffs, hsame⟩ := partition_of_noneOverlap
    [⟨"", "lib", "one"⟩, ⟨"", "doc", "two"⟩] "main" _ hparse hnone
  have hsplit : BranchDiffs.partition [⟨"", "lib", "one"⟩, ⟨"", "doc", "two"⟩] "main"
        "--- a/lib\n+++ b/lib\n--- a/doc\n+++ b/doc\n" =
      .ok ⟨[⟨"main", ""⟩, ⟨"one", "--- a/lib\n+++ b/lib\n"⟩,
        ⟨"two", "--- a/doc\n+++ b/doc\n"⟩]⟩ := by decide +kernel
  obtain rfl := Except.ok.inj (hdiffs.symm.trans hsplit)
  exact ⟨hparse, hnone, hsame _ [⟨"", "web", "three"⟩] (by decide) (by decide +kernel)⟩

end Changesets
