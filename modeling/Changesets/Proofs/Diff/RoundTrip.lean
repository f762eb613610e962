import Changesets.Proofs.Diff.Layout
import Mathlib.Data.List.Chain

/-!
Reading undoes writing. Well-formed sections are read back from their text if none without header
lines stands right before a plain one, which begins with its `---` line: nothing in the text tells
where the one ends and the other begins.
-/
namespace Changesets.Diff

/-- The texts that a section holds. -/
def File.texts (file : File) : List String :=
  file.extended ++ file.binaryPatch ++ [file.old.name, file.new.name] ++
    file.old.time.toList ++ file.new.time.toList ++
    file.hunks.flatMap fun hunk => hunk.header.heading :: hunk.body

/-- No section without header lines is followed by one without an extended header. -/
def Separated (files : List File) : Prop :=
  files.IsChain fun file next => file.hasHeader = false → next.extended ≠ []

instance (files : List File) : Decidable (Separated files) :=
  inferInstanceAs (Decidable (List.IsChain _ files))

/-! ## Written lines -/

theorem Side.newline_notMem_print {side : Side} (hname : '\n' ∉ side.name.toList)
    (htime : ∀ time ∈ side.time, '\n' ∉ time.toList) : '\n' ∉ side.print.toList := by
  obtain ⟨name, time⟩ := side
  cases time with
  | none => simpa [Side.print] using hname
  | some time => simpa [Side.print] using ⟨hname, htime time rfl⟩

theorem File.newline_notMem_toLines {file : File} (h : ∀ text ∈ file.texts, '\n' ∉ text.toList) :
    ∀ line ∈ file.toLines, '\n' ∉ line.toList := by
  simp only [File.texts, List.forall_mem_append, List.mem_flatMap, Option.mem_toList] at h
  obtain ⟨⟨⟨⟨⟨hextended, hbinary⟩, hnames⟩, holdTime⟩, hnewTime⟩, hhunks⟩ := h
  simp only [File.toLines, List.forall_mem_append]
  refine ⟨⟨⟨hextended, hbinary⟩, ?_⟩, ?_⟩
  · have hold := Side.newline_notMem_print (hnames _ (by simp)) holdTime
    have hnew := Side.newline_notMem_print (hnames _ (by simp)) hnewTime
    split <;> simp [hold, hnew]
  · intro line hline
    obtain ⟨hunk, hmem, hline⟩ := List.mem_flatMap.1 hline
    rcases List.mem_cons.1 hline with rfl | hline
    · exact HunkHeader.newline_notMem_print (hhunks _ ⟨hunk, hmem, List.mem_cons_self⟩)
    · exact hhunks _ ⟨hunk, hmem, List.mem_cons_of_mem _ hline⟩

theorem print_eq_ok {files : List File}
    (h : ∀ file ∈ files, ∀ hunk ∈ file.hunks, hunk.Consistent) :
    print files = .ok (Text.unlines (files.flatMap File.toLines)) := by
  have hfault : files.findSome? File.fault? = none := by
    rw [List.findSome?_eq_none_iff]
    intro file hfile
    rw [File.fault?, Option.map_eq_none_iff, List.find?_eq_none]
    exact fun hunk hhunk => by simp [h file hfile hunk hhunk]
  rw [print, hfault]

theorem print_of_wellFormed {files : List File} (h : ∀ file ∈ files, file.WellFormed) :
    print files = .ok (Text.unlines (files.flatMap File.toLines)) :=
  print_eq_ok fun file hfile hunk hhunk => ((h file hfile).hunks hunk hhunk).consistent

/-! ## Reading them -/

theorem isMarker_of_startsFile {line : String} (h : startsFile line) :
    startsHunk line = false ∧ isMarker line = false := by
  rw [startsFile, Bool.or_eq_true] at h
  rcases h with h | h <;>
    exact ⟨Text.startsWith_eq_false h (by decide), Text.startsWith_eq_false h (by decide)⟩

/-- The first written line of a section, which tells it from what comes before. -/
theorem File.WellFormed.toLines_eq_cons {file : File} (h : file.WellFormed) :
    ∃ line rest, file.toLines = line :: rest ∧ startsFile line ∧
      (file.extended ≠ [] → Text.startsWith "diff " line) := by
  have hends : file.EndsAt [] := by simp [File.EndsAt]
  obtain ⟨line, rest, hlines, hline, -⟩ := takeFile_append h file.denotes_toLines hends
  refine ⟨line, rest, hlines, hline, fun hne => ?_⟩
  obtain ⟨first, later, hext⟩ := List.exists_cons_of_ne_nil hne
  rw [File.toLines_eq, File.preamble, hext] at hlines
  obtain ⟨rfl, -⟩ := List.cons.inj hlines
  exact h.first first (by simp [hext])

theorem layout_of_separated {files : List File} (hwf : ∀ file ∈ files, file.WellFormed)
    (hsep : Separated files) : Layout (files.flatMap File.toLines) files := by
  induction files with
  | nil => exact .nil
  | cons file files ih =>
      rw [List.forall_mem_cons] at hwf
      refine .file hwf.1 file.denotes_toLines ?_ (ih hwf.2 hsep.of_cons)
      cases files with
      | nil => simp [File.EndsAt]
      | cons next files =>
          obtain ⟨line, rest, hlines, hline, hdiff⟩ := (hwf.2 next (by simp)).toLines_eq_cons
          have hnext := (List.isChain_cons_cons.1 hsep).1
          intro l hl
          obtain rfl : line = l := by simpa [hlines] using hl
          obtain ⟨hhunk, hmarker⟩ := isMarker_of_startsFile hline
          split
          · exact ⟨hhunk, fun _ => hmarker⟩
          · next hheader => exact .inl (hdiff (hnext (by simpa using hheader)))

theorem parse_unlines {files : List File} (hwf : ∀ file ∈ files, file.WellFormed)
    (hlines : ∀ file ∈ files, ∀ line ∈ file.toLines, '\n' ∉ line.toList)
    (hsep : Separated files) :
    parse (Text.unlines (files.flatMap File.toLines)) = .ok files := by
  rw [parse_eq_ok_iff, Text.lines_unlines]
  · exact layout_of_separated hwf hsep
  · intro line hline
    obtain ⟨file, hfile, hline⟩ := List.mem_flatMap.1 hline
    exact hlines file hfile line hline

/-- Writing well-formed sections succeeds, and reading the text gives them back: git, plain, binary
and header-only ones in any order that keeps them apart, with any headings and times. -/
theorem parse_print {files : List File} (hwf : ∀ file ∈ files, file.WellFormed)
    (htexts : ∀ file ∈ files, ∀ text ∈ file.texts, '\n' ∉ text.toList)
    (hsep : Separated files) :
    ∃ text, print files = .ok text ∧ parse text = .ok files :=
  ⟨_, print_eq_ok fun file hfile hunk hhunk => ((hwf file hfile).hunks hunk hhunk).consistent,
    parse_unlines hwf (fun file hfile => File.newline_notMem_toLines (htexts file hfile)) hsep⟩

/-- One section of each kind: hunks under a heading with ` @@` and with body lines that look like
header lines, a binary patch with a blank line, a rename, a deleted file without hunks, and a plain
section. -/
def mixedSections : List File :=
  [{ extended := ["diff --git a/x b/x", "index 1..2 100644"]
     old := ⟨"a/x", none⟩
     new := ⟨"b/x", none⟩
     hasHeader := true
     hunks := [⟨⟨⟨1, 2⟩, ⟨1, 1⟩, "a @@ b"⟩, ["--- y", "", "\\ No newline at end of file"]⟩,
       ⟨⟨⟨9, 0⟩, ⟨18446744073709551615, 1⟩, ""⟩, ["+++ z"]⟩] },
   { extended := ["diff --git a/p q b/p q", "Binary files a/p q and b/p q differ"]
     binaryPatch := ["literal 1", "", "--- no header"]
     old := ⟨"a/p q", none⟩
     new := ⟨"b/p q", none⟩ },
   { extended := ["diff --git a/r b/s", "rename from r", "rename to s"]
     old := ⟨"a/r", none⟩
     new := ⟨"b/s", none⟩ },
   { extended := ["diff --git a/v b/v"]
     old := ⟨"a/v", some "now\tand"⟩
     new := ⟨"/dev/null", none⟩
     hasHeader := true },
   { old := ⟨"w", some ""⟩
     new := ⟨"w", none⟩
     hasHeader := true
     hunks := [⟨⟨⟨3, 1⟩, ⟨3, 1⟩, ""⟩, [" same"]⟩] }]

theorem parse_print_mixedSections :
    (∀ file ∈ mixedSections, file.WellFormed) ∧
      (∀ file ∈ mixedSections, ∀ text ∈ file.texts, '\n' ∉ text.toList) ∧
      Separated mixedSections ∧
      ∃ text, print mixedSections = .ok text ∧ parse text = .ok mixedSections := by
  have hwf : ∀ file ∈ mixedSections, file.WellFormed := by decide +kernel
  have htexts : ∀ file ∈ mixedSections, ∀ text ∈ file.texts, '\n' ∉ text.toList := by
    decide +kernel
  have hsep : Separated mixedSections := by decide +kernel
  exact ⟨hwf, htexts, hsep, parse_print hwf htexts hsep⟩

end Changesets.Diff
