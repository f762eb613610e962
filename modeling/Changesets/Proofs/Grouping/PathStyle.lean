import Changesets.Proofs.Diff.Change
import Changesets.Proofs.Grouping.Stable

/-!
One change with and without the prefixes `a/` and `b/` in its diff. A section is routed by its path
as the diff has it, so a directory may stand in the path with the prefix and not in the one without.
The branches are the same exactly if that does not happen to the group that decides, or makes no
difference since the path has the branch of that group anyway.
-/
namespace Changesets

namespace Diff.Change

theorem Kind.lastName_bare (kind : Kind) (path : String) : kind.lastName .bare path = path := by
  cases kind <;> rfl

theorem Kind.infix_lastName (kind : Kind) (path : String) :
    path.toList <:+: (kind.lastName .prefixed path).toList := by
  have happend : ∀ start : String, path.toList <:+: (start ++ path).toList :=
    fun start => ⟨start.toList, [], by simp⟩
  cases kind with
  | modified | added => exact happend "b/"
  | deleted => exact happend "a/"

end Diff.Change

section
variable {change : Diff.Change} {path : String}

/-- The section of a change is whole on the branch of its path. -/
theorem partition_change (hchange : change.WellFormed) (hpath : Diff.PlainPath path)
    {style : Diff.PathStyle} {text : String}
    (htext : Diff.File.Denotes (Text.lines text) (change.toFile style path))
    (groups : List Group) (default : String) :
    BranchDiffs.partition groups default text =
      .ok (.whole default (Group.route groups default (change.kind.lastName style path))
        (Text.unlines (change.toFile style path).toLines)) := by
  have hparse := Diff.parse_of_denotes (hchange.toFile hpath style) htext
  have hroute : ∀ file ∈ [change.toFile style path], Group.routeOf groups default file =
      Group.route groups default (change.kind.lastName style path) := by
    intro file hfile
    obtain rfl := List.mem_singleton.1 hfile
    rw [Group.routeOf, change.effectivePath_toFile style hpath]
  have hwhole := partition_eq_whole hparse hroute fun _ => List.cons_ne_nil _ _
  rwa [List.flatMap_singleton] at hwhole

/-- A change of one file is sent to a branch with either style of its path, and the two branches are
the same exactly if the group that decides the path with the prefix, should there be one, has a
directory that stands in the path itself or a branch that the path has without it. -/
theorem partition_of_either_style (groups : List Group) (default : String)
    {prefixed bare : String} (hchange : change.WellFormed) (hpath : Diff.PlainPath path)
    (hprefixed : Diff.File.Denotes (Text.lines prefixed) (change.toFile .prefixed path))
    (hbare : Diff.File.Denotes (Text.lines bare) (change.toFile .bare path)) :
    ∃ sent sentBare,
      BranchDiffs.partition groups default prefixed =
        .ok (.whole default sent (Text.unlines (change.toFile .prefixed path).toLines)) ∧
      Group.RoutesTo groups default (change.kind.lastName .prefixed path) sent ∧
      BranchDiffs.partition groups default bare =
        .ok (.whole default sentBare (Text.unlines (change.toFile .bare path).toLines)) ∧
      Group.RoutesTo groups default path sentBare ∧
      (sent = sentBare ↔
        ∀ group, Group.Decides groups (change.kind.lastName .prefixed path) group →
          group.Covers path ∨ group.branch = sentBare) := by
  refine ⟨_, _, partition_change hchange hpath hprefixed groups default,
    Group.routesTo_route _ _ _, partition_change hchange hpath hbare groups default, ?_⟩
  rw [change.kind.lastName_bare]
  exact ⟨Group.routesTo_route _ _ _,
    Group.route_eq_route_iff (change.kind.infix_lastName path) default⟩

end

/-- A file that is deleted, with a time stamp since there is a space in its path. -/
def goneFile : Diff.Change :=
  { kind := .deleted "100644"
    details := ["index 5a9c3f1..0000000"]
    contents := .text (some "") none [⟨⟨⟨1, 1⟩, ⟨0, 0⟩, ""⟩, ["-gone"]⟩] }

/-- The directory stands in the path itself, so it makes no difference that it is the prefix too. -/
theorem partition_of_either_style_goneFile :
    goneFile.WellFormed ∧ Diff.PlainPath "lib b/x" ∧ ∃ prefixed bare diff diffBare,
      Diff.File.Denotes (Text.lines prefixed) (goneFile.toFile .prefixed "lib b/x") ∧
      Diff.File.Denotes (Text.lines bare) (goneFile.toFile .bare "lib b/x") ∧
      BranchDiffs.partition [⟨"", "b/", "lib"⟩] "main" prefixed =
        .ok (.whole "main" "lib" diff) ∧
      BranchDiffs.partition [⟨"", "b/", "lib"⟩] "main" bare =
        .ok (.whole "main" "lib" diffBare) := by
  have hchange : goneFile.WellFormed := by decide +kernel
  have hpath : Diff.PlainPath "lib b/x" := by decide
  have hhunk : Diff.HunkLines goneFile.contents.hunks ["@@ -1 +0,0 @@", "-gone"] :=
    .cons (by decide +kernel) .nil
  have hprefixed : Diff.File.Denotes
      (Text.lines (Text.unlines
        ["diff --git a/lib b/x b/lib b/x", "deleted file mode 100644", "index 5a9c3f1..0000000",
          "--- a/lib b/x\t", "+++ /dev/null", "@@ -1 +0,0 @@", "-gone"]))
      (goneFile.toFile .prefixed "lib b/x") :=
    Diff.denotes_lines_unlines (by simp) hhunk (by decide +kernel)
  have hbare : Diff.File.Denotes
      (Text.lines (Text.unlines
        ["diff --git lib b/x lib b/x", "deleted file mode 100644", "index 5a9c3f1..0000000",
          "--- lib b/x\t", "+++ /dev/null", "@@ -1 +0,0 @@", "-gone"]))
      (goneFile.toFile .bare "lib b/x") :=
    Diff.denotes_lines_unlines (by simp) hhunk (by decide +kernel)
  obtain ⟨sent, sentBare, hsent, -, hsentBare, hroute, hsame⟩ :=
    partition_of_either_style [⟨"", "b/", "lib"⟩] "main" hchange hpath hprefixed hbare
  obtain rfl : sent = sentBare := hsame.2 fun group hgroup => .inl (by
    obtain rfl := List.mem_singleton.1 hgroup.mem
    exact Group.contains_iff_covers.1 (by decide))
  obtain rfl : "lib" = sent := (by decide +kernel :
    "lib" = Group.route [⟨"", "b/", "lib"⟩] "main" "lib b/x").trans (Group.route_eq_iff.2 hroute)
  exact ⟨hchange, hpath, _, _, _, _, hprefixed, hbare, hsent, hsentBare⟩

/-! ## A directory that stands in the prefix only -/

theorem BranchDiffs.whole_inj {default branch other diff diff' : String}
    (h : BranchDiffs.whole default branch diff = .whole default other diff') : branch = other := by
  simp only [whole, single] at h
  split at h <;> split at h <;> simp_all

def modeChange : Diff.Change :=
  { kind := .modified
    details := ["old mode 100644", "new mode 100755"]
    contents := .unshown }

def prefixedModeChange : String :=
  Text.unlines ["diff --git a/src/x b/src/x", "old mode 100644", "new mode 100755"]

def bareModeChange : String :=
  Text.unlines ["diff --git src/x src/x", "old mode 100644", "new mode 100755"]

/-- The directory of the group is the prefix of the new name and nowhere in the path. -/
theorem not_same_branch_modeChange :
    modeChange.WellFormed ∧ Diff.PlainPath "src/x" ∧
      Diff.File.Denotes (Text.lines prefixedModeChange) (modeChange.toFile .prefixed "src/x") ∧
      Diff.File.Denotes (Text.lines bareModeChange) (modeChange.toFile .bare "src/x") ∧
      BranchDiffs.partition [⟨"", "b/", "topic"⟩] "main" prefixedModeChange =
        .ok (.whole "main" "topic" prefixedModeChange) ∧
      BranchDiffs.partition [⟨"", "b/", "topic"⟩] "main" bareModeChange =
        .ok (.whole "main" "main" bareModeChange) ∧
      ¬ ∃ branch diff diffBare,
        BranchDiffs.partition [⟨"", "b/", "topic"⟩] "main" prefixedModeChange =
          .ok (.whole "main" branch diff) ∧
        BranchDiffs.partition [⟨"", "b/", "topic"⟩] "main" bareModeChange =
          .ok (.whole "main" branch diffBare) := by
  have hchange : modeChange.WellFormed := by decide +kernel
  have hpath : Diff.PlainPath "src/x" := by decide
  have hprefixed : Diff.File.Denotes (Text.lines prefixedModeChange)
      (modeChange.toFile .prefixed "src/x") :=
    Diff.denotes_lines_unlines (by simp) .nil (by decide +kernel)
  have hbare : Diff.File.Denotes (Text.lines bareModeChange) (modeChange.toFile .bare "src/x") :=
    Diff.denotes_lines_unlines (by simp) .nil (by decide +kernel)
  have hsent := partition_change hchange hpath hprefixed [⟨"", "b/", "topic"⟩] "main"
  have hsentBare := partition_change hchange hpath hbare [⟨"", "b/", "topic"⟩] "main"
  have htopic : Group.route [⟨"", "b/", "topic"⟩] "main"
      (modeChange.kind.lastName .prefixed "src/x") = "topic" := by decide +kernel
  have hmain : Group.route [⟨"", "b/", "topic"⟩] "main"
      (modeChange.kind.lastName .bare "src/x") = "main" := by decide +kernel
  rw [htopic] at hsent
  rw [hmain] at hsentBare
  refine ⟨hchange, hpath, hprefixed, hbare, hsent, hsentBare, ?_⟩
  rintro ⟨branch, diff, diffBare, hbranch, hbranchBare⟩
  have hfirst := BranchDiffs.whole_inj (Except.ok.inj (hsent.symm.trans hbranch))
  have hsecond := BranchDiffs.whole_inj (Except.ok.inj (hsentBare.symm.trans hbranchBare))
  exact absurd (hfirst.trans hsecond.symm) (by decide)

end Changesets
