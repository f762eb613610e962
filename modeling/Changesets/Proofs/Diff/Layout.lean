import Changesets.Proofs.Diff.Section
import Changesets.Proofs.Text.Lines

/-!
Which lines are a combined diff. `parse_eq_ok_iff` says that reading a text gives exactly the
sections that its lines are laid out as, with blank lines between them. What was read can always be
written: its sections are well formed, and no line that is written for them holds a line feed.
-/
namespace Changesets.Diff

/-- The lines are the sections one after the other, with blank lines around them. -/
inductive Layout : List String → List File → Prop
  | nil : Layout [] []
  | blank {line : String} {ls : List String} {files : List File} :
      Text.isBlankText line → Layout ls files → Layout (line :: ls) files
  | file {file : File} {files : List File} {ls left : List String} :
      file.WellFormed → File.Denotes ls file → file.EndsAt left → Layout left files →
        Layout (ls ++ left) (file :: files)

theorem startsFile_eq_false_of_isBlankText {line : String} (h : Text.isBlankText line) :
    startsFile line = false := by
  rw [startsFile, startsWith_eq_false_of_isBlankText (by decide) h,
    startsWith_eq_false_of_isBlankText (by decide) h]
  rfl

theorem layout_of_takeFiles {number : Nat} {ls : List String} {files : List File}
    (h : takeFiles number ls = .ok files) : Layout ls files := by
  fun_induction takeFiles number ls generalizing files with
  | case1 =>
      cases h
      exact .nil
  | case2 => cases h
  | case3 number line rest hline file left hfile ih =>
      obtain ⟨files, hfiles, rfl⟩ := map_eq_ok.1 h
      obtain ⟨hwf, ⟨ls, hls, hlines⟩, hends⟩ := takeFile_sound hline hfile
      rw [hlines]
      exact .file hwf hls hends (ih hfiles)
  | case4 number line rest _ hblank ih => exact .blank hblank (ih h)
  | case5 => cases h

theorem Layout.takeFiles {ls : List String} {files : List File} (h : Layout ls files)
    (number : Nat) : Diff.takeFiles number ls = .ok files := by
  induction h generalizing number with
  | nil => simp [Diff.takeFiles]
  | blank hblank _ ih =>
      rw [Diff.takeFiles, startsFile_eq_false_of_isBlankText hblank, if_neg Bool.false_ne_true,
        if_pos hblank]
      exact ih (number + 1)
  | @file file files ls left hwf hls hends _ ih =>
      obtain ⟨line, rest, rfl, hline, htake⟩ := takeFile_append hwf hls hends
      rw [List.cons_append, Diff.takeFiles, if_pos hline]
      split
      · next e he => simp [htake] at he
      · next taken after hk =>
          rw [htake] at hk
          cases hk
          rw [ih]
          rfl

theorem takeFiles_eq_ok_iff {number : Nat} {ls : List String} {files : List File} :
    takeFiles number ls = .ok files ↔ Layout ls files :=
  ⟨layout_of_takeFiles, fun h => h.takeFiles number⟩

theorem parse_eq_ok_iff {text : String} {files : List File} :
    parse text = .ok files ↔ Layout (Text.lines text) files :=
  takeFiles_eq_ok_iff

theorem Layout.wellFormed {ls : List String} {files : List File} (h : Layout ls files) :
    ∀ file ∈ files, file.WellFormed := by
  induction h with
  | nil => simp
  | blank _ _ ih => exact ih
  | file hwf _ _ _ ih => exact List.forall_mem_cons.2 ⟨hwf, ih⟩

/-! ## Line feeds -/

theorem HunkHeader.heading_subset {line : String} {header : HunkHeader}
    (h : HunkHeader.parse? line = some header) : header.heading.toList ⊆ line.toList := by
  obtain ⟨old, new, tail, rfl, -, -, htail⟩ := HunkHeader.parse?_eq_some_iff.1 h
  intro c hc
  rcases htail with rfl | ⟨rfl, -⟩ <;> simp [hc]

theorem HunkHeader.newline_notMem_print {header : HunkHeader}
    (h : '\n' ∉ header.heading.toList) : '\n' ∉ header.print.toList := by
  have hrange : ∀ range : Range, '\n' ∉ range.print.toList := fun range =>
    range.spells_print.notMem (by decide) (by decide) (by decide)
  simp only [HunkHeader.print]
  split <;> simp [hrange, h]

theorem HunkLines.newline_notMem {hunks : List Hunk} {ls : List String} (h : HunkLines hunks ls)
    (hls : ∀ line ∈ ls, '\n' ∉ line.toList) :
    ∀ line ∈ hunks.flatMap Hunk.toLines, '\n' ∉ line.toList := by
  induction h with
  | nil => simp
  | @cons hunk hunks header ls hheader _ ih =>
      simp only [List.cons_append, List.forall_mem_cons, List.forall_mem_append] at hls
      simp only [List.flatMap_cons, Hunk.toLines, List.cons_append, List.forall_mem_cons,
        List.forall_mem_append]
      refine ⟨HunkHeader.newline_notMem_print fun hmem => ?_, hls.2.1, ih hls.2.2⟩
      exact hls.1 (HunkHeader.heading_subset hheader hmem)

theorem Layout.newline_notMem {ls : List String} {files : List File} (h : Layout ls files)
    (hls : ∀ line ∈ ls, '\n' ∉ line.toList) :
    ∀ file ∈ files, ∀ line ∈ file.toLines, '\n' ∉ line.toList := by
  induction h with
  | nil => simp
  | blank _ _ ih => exact ih (List.forall_mem_cons.1 hls).2
  | @file file files ls left _ hdenotes _ _ ih =>
      obtain ⟨written, hwritten, rfl⟩ := hdenotes
      simp only [List.forall_mem_append] at hls
      rw [List.forall_mem_cons, File.toLines_eq, List.forall_mem_append]
      exact ⟨⟨hls.1.1, hwritten.newline_notMem hls.1.2⟩, ih hls.2⟩

/-- What every reader of a diff can rely on. -/
theorem readable_of_parse {text : String} {files : List File} (h : parse text = .ok files) :
    ∀ file ∈ files, file.WellFormed ∧ ∀ line ∈ file.toLines, '\n' ∉ line.toList := by
  have hlayout := parse_eq_ok_iff.1 h
  exact fun file hfile => ⟨hlayout.wellFormed file hfile,
    hlayout.newline_notMem (fun _ => Text.newline_notMem_lines) file hfile⟩

end Changesets.Diff
