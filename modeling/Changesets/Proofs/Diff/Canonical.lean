import Changesets.Proofs.Diff.Regroup

/-!
What a diff becomes when it is read and written. `Rewritten` sets the lines that are written beside
those that were read: blank lines between sections go, hunk headers are spelled in full, and every
other line stays, in its place. The written text is the canonical one: reading it may give fewer
sections, since without blank lines some are no longer kept apart, but writes the same text again.
-/
namespace Changesets.Diff

/-- The lines of hunks as they are read and as they are written. -/
inductive HunksRewritten : List Hunk → List String → List String → Prop
  | nil : HunksRewritten [] [] []
  | cons {hunk : Hunk} {hunks : List Hunk} {line full : String} {read written : List String} :
      HunkHeader.Spells line hunk.header → HunkHeader.Full full hunk.header →
        HunksRewritten hunks read written →
          HunksRewritten (hunk :: hunks) (line :: (hunk.body ++ read))
            (full :: (hunk.body ++ written))

/-- The lines of a diff as they are read and as they are written. -/
inductive Rewritten : List File → List String → List String → Prop
  | nil : Rewritten [] [] []
  | blank {files : List File} {line : String} {read written : List String} :
      Text.isBlankText line → Rewritten files read written →
        Rewritten files (line :: read) written
  | file {file : File} {files : List File} {hunksRead hunksWritten read written : List String} :
      HunksRewritten file.hunks hunksRead hunksWritten → Rewritten files read written →
        Rewritten (file :: files) (file.preamble ++ hunksRead ++ read)
          (file.preamble ++ hunksWritten ++ written)

theorem HunkLines.rewritten {hunks : List Hunk} {ls : List String} (h : HunkLines hunks ls) :
    HunksRewritten hunks ls (hunks.flatMap Hunk.toLines) := by
  induction h with
  | nil => exact .nil
  | @cons hunk _ _ _ hheader _ ih =>
      exact .cons (HunkHeader.parse?_eq_some_iff.1 hheader) hunk.header.full_print ih

theorem Layout.rewritten {ls : List String} {files : List File} (h : Layout ls files) :
    Rewritten files ls (files.flatMap File.toLines) := by
  induction h with
  | nil => exact .nil
  | blank hblank _ ih => exact .blank hblank ih
  | file _ hdenotes _ _ ih =>
      obtain ⟨written, hwritten, rfl⟩ := hdenotes
      exact .file hwritten.rewritten ih

theorem Layout.filter_diff {ls : List String} {files : List File} (h : Layout ls files) :
    ls.filter (Text.startsWith "diff ") = files.filterMap (·.extended.head?) := by
  induction h with
  | nil => rfl
  | @blank line _ _ hblank _ ih =>
      have hdiff : Text.startsWith "diff " line = false :=
        startsWith_eq_false_of_isBlankText (by decide) hblank
      rw [List.filter_cons_of_neg (by simp [hdiff]), ih]
  | @file file files ls left hwf hdenotes _ _ ih =>
      rw [List.filter_append, hwf.filter_diff hdenotes, ih]
      cases h : file.extended.head? <;> simp [h]

/-- A diff that was read can be written. Nothing in it is lost or altered but that blank lines
between sections go and that hunk headers are spelled in full, with the numbers and the heading that
they had. A line feed ends each written line, and the `diff ` lines that were read are those with
which the extended headers of the sections begin. -/
theorem rewritten_of_parse {text : String} {files : List File} (h : parse text = .ok files) :
    ∃ printed, print files = .ok printed ∧
      Rewritten files (Text.lines text) (Text.lines printed) ∧
      printed.toList = (Text.lines printed).flatMap (fun line => line.toList ++ ['\n']) ∧
      (Text.lines text).filter (Text.startsWith "diff ") =
        files.filterMap (·.extended.head?) := by
  have hlayout := parse_eq_ok_iff.1 h
  have hread := readable_of_parse h
  have hlines : Text.lines (Text.unlines (files.flatMap File.toLines)) =
      files.flatMap File.toLines := by
    apply Text.lines_unlines
    intro line hline
    obtain ⟨file, hfile, hline⟩ := List.mem_flatMap.1 hline
    exact (hread file hfile).2 line hline
  refine ⟨_, print_of_wellFormed fun file hfile => (hread file hfile).1, ?_⟩
  rw [hlines]
  exact ⟨hlayout.rewritten, String.toList_ofList, hlayout.filter_diff⟩

/-- A binary patch with a blank line at its end, a hunk header with a plus sign, a zero and without
a count, a body that begins with a blank line, and blank lines before and between sections. -/
def looseDiff : String :=
  Text.unlines
    ["", "diff x", "GIT binary patch", "", "diff y", "--- y\tnow", "+++ y",
      "@@ -+1 +01,2 @@  @@", "", "+", "\\ end", " ", "--- z", "+++ z"]

def looseDiffWritten : String :=
  "diff x\nGIT binary patch\n\ndiff y\n--- y\tnow\n+++ y\n" ++
    "@@ -1,1 +1,2 @@  @@\n\n+\n\\ end\n--- z\n+++ z\n"

theorem rewritten_looseDiff :
    ∃ files, parse looseDiff = .ok files ∧ print files = .ok looseDiffWritten ∧
      Rewritten files (Text.lines looseDiff) (Text.lines looseDiffWritten) ∧
      (Text.lines looseDiff).filter (Text.startsWith "diff ") =
        ["diff x", "diff y"] := by
  have hparse : parse looseDiff = .ok
      [File.headerOnly ["diff x", "GIT binary patch"] [""],
        { extended := ["diff y"]
          old := ⟨"y", some "now"⟩
          new := ⟨"y", none⟩
          hasHeader := true
          hunks := [⟨⟨⟨1, 1⟩, ⟨1, 2⟩, " @@"⟩, ["", "+", "\\ end"]⟩] },
        File.withNames "z" "z"] := by decide +kernel
  obtain ⟨printed, hprint, hrewritten, -, hdiff⟩ := rewritten_of_parse hparse
  have hwritten : printed = looseDiffWritten :=
    Except.ok.inj (hprint.symm.trans (by decide +kernel))
  subst hwritten
  exact ⟨_, hparse, hprint, hrewritten, hdiff⟩

/-- Writing what was read gives a text that reading and writing leave as it is, also where its
sections are not those of the text that was read first. -/
theorem print_parse_print {text : String} {files : List File} (h : parse text = .ok files) :
    ∃ printed read, print files = .ok printed ∧ parse printed = .ok read ∧
      print read = .ok printed := by
  have hread := readable_of_parse h
  have hwf : ∀ file ∈ files, file.WellFormed := fun file hfile => (hread file hfile).1
  refine ⟨_, _, print_of_wellFormed hwf, parse_unlines_eq_regroup hread, ?_⟩
  -- the sections that are read differ from those written, but not in their lines
  rw [← toLines_regroup hwf]
  exact print_of_wellFormed (wellFormed_regroup hwf)

/-- A change of mode and a plain section that only a blank line keeps apart. -/
def modeBlankPlain : String :=
  Text.unlines
    ["diff --git a/x b/x", "old mode 100644", "new mode 100755", "", "--- a/z", "+++ b/z",
      "@@ -1 +1 @@", "-z", "+Z"]

def modeBlankPlainWritten : String :=
  "diff --git a/x b/x\nold mode 100644\nnew mode 100755\n" ++
    "--- a/z\n+++ b/z\n@@ -1,1 +1,1 @@\n-z\n+Z\n"

theorem print_parse_print_modeBlankPlain :
    ∃ files read, parse modeBlankPlain = .ok files ∧ print files = .ok modeBlankPlainWritten ∧
      parse modeBlankPlainWritten = .ok read ∧ read ≠ files ∧
      print read = .ok modeBlankPlainWritten := by
  have hparse : parse modeBlankPlain = .ok
      [File.headerOnly ["diff --git a/x b/x", "old mode 100644", "new mode 100755"] [],
        { old := ⟨"a/z", none⟩
          new := ⟨"b/z", none⟩
          hasHeader := true
          hunks := [⟨⟨⟨1, 1⟩, ⟨1, 1⟩, ""⟩, ["-z", "+Z"]⟩] }] := by decide +kernel
  -- without the blank line the mode lines belong to the section that was plain
  have hreparse : parse modeBlankPlainWritten = .ok
      [{ extended := ["diff --git a/x b/x", "old mode 100644", "new mode 100755"]
         old := ⟨"a/z", none⟩
         new := ⟨"b/z", none⟩
         hasHeader := true
         hunks := [⟨⟨⟨1, 1⟩, ⟨1, 1⟩, ""⟩, ["-z", "+Z"]⟩] }] := by decide +kernel
  obtain ⟨printed, read, hprint, hread, hagain⟩ := print_parse_print hparse
  have hwritten : printed = modeBlankPlainWritten :=
    Except.ok.inj (hprint.symm.trans (by decide +kernel))
  subst hwritten
  obtain rfl := Except.ok.inj (hread.symm.trans hreparse)
  exact ⟨_, _, hparse, hprint, hread, by decide, hagain⟩

end Changesets.Diff
