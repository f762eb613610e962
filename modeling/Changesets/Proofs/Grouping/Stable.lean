import Changesets.Proofs.Diff.Regroup
import Changesets.Proofs.Grouping.Cover

/-!
Splitting the diff of a branch once more. Sections that are read as one have the path of one of
them, so whatever the text of a branch is read as, all of it is sent to that branch again, and the
text of it is the same.
-/
namespace Changesets

/-! ## Paths of regrouped sections -/

theorem Diff.effectivePath_absorb (file next : Diff.File) :
    (file.absorb next).effectivePath = file.effectivePath ∨
      (file.absorb next).effectivePath = next.effectivePath := by
  rw [Diff.File.absorb]
  split
  · exact .inl rfl
  · exact .inr rfl

theorem Diff.exists_path_of_mem_regroupFrom {file piece : Diff.File} {rest : List Diff.File}
    (h : piece ∈ Diff.regroupFrom file rest) :
    ∃ original ∈ file :: rest, piece.effectivePath = original.effectivePath := by
  induction rest generalizing file with
  | nil =>
      obtain rfl := List.mem_singleton.1 h
      exact ⟨piece, List.mem_cons_self, rfl⟩
  | cons next rest ih =>
      rw [Diff.regroupFrom] at h
      split at h
      · obtain ⟨original, horiginal, hpath⟩ := ih h
        rcases List.mem_cons.1 horiginal with rfl | horiginal
        · rcases Diff.effectivePath_absorb file next with habsorb | habsorb
          · exact ⟨file, by simp, hpath.trans habsorb⟩
          · exact ⟨next, by simp, hpath.trans habsorb⟩
        · exact ⟨original, by simp [horiginal], hpath⟩
      · rcases List.mem_cons.1 h with rfl | h
        · exact ⟨piece, List.mem_cons_self, rfl⟩
        · obtain ⟨original, horiginal, hpath⟩ := ih h
          exact ⟨original, List.mem_cons_of_mem _ horiginal, hpath⟩

theorem Diff.exists_path_of_mem_regroup {piece : Diff.File} {files : List Diff.File}
    (h : piece ∈ Diff.regroup files) :
    ∃ original ∈ files, piece.effectivePath = original.effectivePath := by
  cases files with
  | nil => cases h
  | cons file rest => exact Diff.exists_path_of_mem_regroupFrom h

theorem Diff.regroup_ne_nil {files : List Diff.File} (h : files ≠ []) :
    Diff.regroup files ≠ [] := by
  obtain ⟨file, rest, rfl⟩ := List.exists_cons_of_ne_nil h
  obtain ⟨first, later, hregroup, -⟩ := Diff.regroupFrom_eq_cons file rest
  rw [Diff.regroup, hregroup]
  exact List.cons_ne_nil first later

/-- What is sent to a branch is sent there also after it was regrouped. -/
theorem routeOf_of_mem_regroup {groups : List Group} {default branch : String}
    {files : List Diff.File} {piece : Diff.File}
    (h : piece ∈ Diff.regroup (sentTo groups default branch files)) :
    Group.routeOf groups default piece = branch := by
  obtain ⟨original, horiginal, hpath⟩ := Diff.exists_path_of_mem_regroup h
  rw [Group.routeOf, hpath]
  exact (mem_sentTo.1 horiginal).2

/-! ## Diffs that stay whole -/

/-- All of a diff on one branch. The default branch has its entry in any case. -/
def BranchDiffs.whole (default branch diff : String) : BranchDiffs :=
  if branch = default then .single default diff else ⟨[⟨default, ""⟩, ⟨branch, diff⟩]⟩

theorem eraseDups_of_forall_eq {names : List String} {name : String} (hne : names ≠ [])
    (h : ∀ other ∈ names, other = name) : names.eraseDups = [name] := by
  obtain ⟨first, rest, rfl⟩ := List.exists_cons_of_ne_nil hne
  rw [List.forall_mem_cons] at h
  have hrest : rest.filter (fun other => !other == first) = [] :=
    List.filter_eq_nil_iff.2 fun other hother => by simp [h.1, h.2 other hother]
  rw [List.eraseDups_cons, hrest, List.eraseDups_nil, h.1]

/-- Where all sections have one branch, the outcome is their text on that branch. -/
theorem partition_eq_whole {text default branch : String} {files : List Diff.File}
    {groups : List Group} (h : Diff.parse text = .ok files)
    (hroutes : ∀ file ∈ files, Group.routeOf groups default file = branch)
    (hne : branch ≠ default → files ≠ []) :
    BranchDiffs.partition groups default text =
      .ok (.whole default branch (Text.unlines (files.flatMap Diff.File.toLines))) := by
  rw [BranchDiffs.whole]
  split
  · next heq =>
      subst heq
      exact partition_eq_single h hroutes
  · next hbranch =>
      have hnames : ∀ name ∈ files.map (Group.routeOf groups default), name = branch :=
        List.forall_mem_map.2 hroutes
      have hothers : (files.map (Group.routeOf groups default)).filter (· ≠ default) =
          files.map (Group.routeOf groups default) :=
        List.filter_eq_self.2 fun name hname => by simp [hnames name hname, hbranch]
      have hdups := eraseDups_of_forall_eq (by simpa using hne hbranch) hnames
      have hnone : sentTo groups default default files = [] :=
        List.filter_eq_nil_iff.2 fun file hfile => by simp [hroutes file hfile, hbranch]
      have hall : sentTo groups default branch files = files :=
        List.filter_eq_self.2 fun file hfile => by simp [hroutes file hfile]
      rw [partition_eq_ok h, branchesOf, hothers, hdups]
      simp [entryOf, hnone, hall, Text.unlines]

/-- The diff of a branch that was split off is split again into itself, on the same branch and byte
for byte. All that it is read as is sent to that branch, also where sections that were apart in the
combined diff are read as one. -/
theorem partition_entry_whole (groups : List Group) (default text : String) {diffs : BranchDiffs}
    (h : BranchDiffs.partition groups default text = .ok diffs) :
    ∀ entry ∈ diffs.entries,
      (∃ read, Diff.parse entry.diff = .ok read ∧
        ∀ file ∈ read, Group.routeOf groups default file = entry.branch) ∧
      BranchDiffs.partition groups default entry.diff =
        .ok (.whole default entry.branch entry.diff) := by
  obtain ⟨files, hfiles, rfl⟩ := partition_eq_ok_iff.1 h
  intro entry hentry
  obtain ⟨branch, hbranch, rfl⟩ := List.mem_map.1 hentry
  have hread : Diff.parse (entryOf groups default files branch).diff =
      .ok (Diff.regroup (sentTo groups default branch files)) :=
    parse_entries hfiles groups default _ hentry
  have hroutes : ∀ file ∈ Diff.regroup (sentTo groups default branch files),
      Group.routeOf groups default file = branch := fun file => routeOf_of_mem_regroup
  have hne : branch ≠ default → Diff.regroup (sentTo groups default branch files) ≠ [] := by
    intro hdefault
    obtain ⟨file, hfile, hroute⟩ := (mem_branchesOf.1 hbranch).resolve_left hdefault
    exact Diff.regroup_ne_nil (List.ne_nil_of_mem (mem_sentTo.2 ⟨hfile, hroute⟩))
  have hwf : ∀ file ∈ sentTo groups default branch files, file.WellFormed :=
    fun file hfile => (Diff.readable_of_parse hfiles file (mem_sentTo.1 hfile).1).1
  have hwhole := partition_eq_whole hread hroutes hne
  rw [Diff.toLines_regroup hwf] at hwhole
  exact ⟨⟨_, hread, hroutes⟩, hwhole⟩

/-- On the default branch the change of mode and the plain section are read as one. -/
theorem partition_entry_whole_modeThenPlain :
    ∃ diffs, BranchDiffs.partition [⟨"", "web/", "web"⟩] "main" modeThenPlain = .ok diffs ∧
      diffs.branches = ["main", "web"] ∧
      (∃ entry ∈ diffs.entries, entry.branch = "main" ∧ ∃ read,
        Diff.parse entry.diff = .ok read ∧
          read ≠ sentTo [⟨"", "web/", "web"⟩] "main" "main" modeThenPlainSections) ∧
      ∀ entry ∈ diffs.entries,
        BranchDiffs.partition [⟨"", "web/", "web"⟩] "main" entry.diff =
          .ok (.whole "main" entry.branch entry.diff) := by
  have hpartition := partition_eq_ok parse_modeThenPlain [⟨"", "web/", "web"⟩] "main"
  have hwhole := partition_entry_whole _ _ _ hpartition
  have hread := parse_entries parse_modeThenPlain [⟨"", "web/", "web"⟩] "main"
  have hbranches : branchesOf [⟨"", "web/", "web"⟩] "main" modeThenPlainSections =
      ["main", "web"] := by decide +kernel
  refine ⟨_, hpartition, by rw [branches_map_entryOf, hbranches], ?_,
    fun entry hentry => (hwhole entry hentry).2⟩
  refine ⟨_, List.mem_map_of_mem (by rw [hbranches]; simp), rfl, _,
    hread _ (List.mem_map_of_mem (by rw [hbranches]; simp)), fun heq => ?_⟩
  exact absurd (Diff.regroup_eq_self_iff.1 heq) (by decide +kernel)

end Changesets
