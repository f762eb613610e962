import Changesets.Proofs.Grouping.Partition

/-!
What can go wrong when a diff is split: only that it cannot be read. A hunk that was read has the
lines that its header declares, by the count that is made when it is written, so that sections which
were read can be written in any selection and order.
-/
namespace Changesets

/-- The section is one of those that some diff is read as. -/
def Diff.File.Parsed (file : Diff.File) : Prop :=
  ∃ text files, Diff.parse text = .ok files ∧ file ∈ files

theorem Diff.File.Parsed.wellFormed {file : Diff.File} (h : file.Parsed) : file.WellFormed := by
  obtain ⟨text, files, hfiles, hmem⟩ := h
  exact (Diff.readable_of_parse hfiles file hmem).1

/-- Sections that were read can be written, whichever diffs they are from. Of a diff that cannot be
read nothing is split, and nothing else keeps a diff from being split. -/
theorem partition_fails_iff_parse_fails :
    (∀ file : Diff.File, file.Parsed → ∀ hunk ∈ file.hunks,
      (∀ line ∈ hunk.body, Diff.isBodyLine line) ∧
        Diff.oldLines hunk.body = hunk.header.old.count.toNat ∧
        Diff.newLines hunk.body = hunk.header.new.count.toNat) ∧
    (∀ files : List Diff.File, (∀ file ∈ files, file.Parsed) →
      Diff.print files = .ok (Text.unlines (files.flatMap Diff.File.toLines))) ∧
    ∀ groups default text,
      (∀ e, BranchDiffs.partition groups default text = .error e ↔
        ∃ cause, Diff.parse text = .error cause ∧ e = .parse cause) ∧
      ∀ e, BranchDiffs.partition groups default text ≠ .error (.print e) := by
  refine ⟨fun file hfile hunk hhunk => ?_, fun files hfiles => ?_, fun groups default text =>
    ⟨fun e => partition_eq_error_iff, fun e hprint => ?_⟩⟩
  · have hwf := hfile.wellFormed.hunks hunk hhunk
    exact ⟨hwf.bodyLines, hwf.consistent⟩
  · exact Diff.print_of_wellFormed fun file hfile => (hfiles file hfile).wellFormed
  · obtain ⟨cause, -, hcause⟩ := partition_eq_error_iff.1 hprint
    cases hcause

/-- A hunk with a line of each kind: context, also as an empty line, removed, added and a marker. -/
def mixedBody : String :=
  Text.unlines
    ["--- a/x", "+++ b/x", "@@ -1,4 +1,3 @@", " a", "--- y", "", "\\ no newline", "+b", "-"]

/-- A hunk that only adds, without its count, and a section without hunks. -/
def addedAndRenamed : String :=
  Text.unlines
    ["--- /dev/null", "+++ b/n", "@@ -0,0 +1 @@", "+n", "diff --git a/o b/p", "rename from o",
      "rename to p"]

/-- Sections of two diffs in another order, one of them twice. -/
theorem print_mixedBody_addedAndRenamed :
    ∃ mixed added renamed, Diff.parse mixedBody = .ok [mixed] ∧
      Diff.parse addedAndRenamed = .ok [added, renamed] ∧
      Diff.print [renamed, mixed, added, mixed] = .ok (Text.unlines
        ([renamed, mixed, added, mixed].flatMap Diff.File.toLines)) := by
  have hmixed : Diff.parse mixedBody = .ok
      [{ old := ⟨"a/x", none⟩
         new := ⟨"b/x", none⟩
         hasHeader := true
         hunks := [⟨⟨⟨1, 4⟩, ⟨1, 3⟩, ""⟩, [" a", "--- y", "", "\\ no newline", "+b", "-"]⟩] }] := by
    decide +kernel
  have hothers : Diff.parse addedAndRenamed = .ok
      [{ old := ⟨"/dev/null", none⟩
         new := ⟨"b/n", none⟩
         hasHeader := true
         hunks := [⟨⟨⟨0, 0⟩, ⟨1, 1⟩, ""⟩, ["+n"]⟩] },
        Diff.File.headerOnly ["diff --git a/o b/p", "rename from o", "rename to p"] []] := by
    decide +kernel
  refine ⟨_, _, _, hmixed, hothers, partition_fails_iff_parse_fails.2.1 _ ?_⟩
  simp only [List.forall_mem_cons, List.not_mem_nil, false_imp_iff, implies_true, and_true]
  exact ⟨⟨_, _, hothers, by simp⟩, ⟨_, _, hmixed, by simp⟩, ⟨_, _, hothers, by simp⟩,
    ⟨_, _, hmixed, by simp⟩⟩

end Changesets
