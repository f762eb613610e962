import Changesets.Proofs.Text.Search
import Changesets.Text.Lines
import Mathlib.Data.List.Basic

/-!
The lines of a text, of a text with another after it, and of one that is cut before a line. Where a
line ends belongs to the text only: the last line is ended by a line feed or by the end of the text.
-/
namespace Changesets.Text

theorem newline_notMem_lines {text line : String} (h : line ∈ lines text) :
    '\n' ∉ line.toList := by
  obtain ⟨cs, hcs, rfl⟩ := List.mem_map.1 h
  rw [String.toList_ofList]
  exact newline_notMem_of_mem_splitLines hcs

/-! ## Texts after each other -/

theorem splitLines_eq_nil_iff {cs : List Char} : splitLines cs = [] ↔ cs = [] := by
  cases cs with
  | nil => simp [splitLines]
  | cons c cs =>
      rw [splitLines]
      split
      · simp
      · split <;> simp

theorem splitLines_append_of_newline (cs ds : List Char) :
    splitLines (cs ++ '\n' :: ds) = splitLines (cs ++ ['\n']) ++ splitLines ds := by
  induction cs with
  | nil => simp [splitLines]
  | cons c cs ih =>
      by_cases hc : c = '\n'
      · simp [splitLines, hc, ih]
      · obtain ⟨line, rest, hlines⟩ := List.exists_cons_of_ne_nil
          (mt splitLines_eq_nil_iff.1 (by simp : cs ++ ['\n'] ≠ []))
        simp [splitLines, hc, ih, hlines]

/-- A text whose last line is ended has its lines before those of any text after it. -/
theorem lines_append {x : String} (hx : x = "" ∨ endsWith "\n" x) (y : String) :
    lines (x ++ y) = lines x ++ lines y := by
  rcases hx with rfl | hx
  · simp [lines, splitLines]
  · rw [endsWith, List.isSuffixOf_iff_suffix] at hx
    obtain ⟨cs, hcs⟩ := hx
    have hx : x.toList = cs ++ ['\n'] := by rw [← hcs]; rfl
    simp only [lines, String.toList_append, hx, List.append_assoc, List.singleton_append]
    rw [splitLines_append_of_newline, List.map_append]

theorem prefix_of_head?_splitLines {start cs line : List Char} (hstart : start <+: cs)
    (hnewline : '\n' ∉ start) (h : (splitLines cs).head? = some line) : start <+: line := by
  induction start generalizing cs line with
  | nil => exact List.nil_prefix
  | cons c start ih =>
      obtain ⟨rest, rfl⟩ := hstart
      rw [List.mem_cons, not_or] at hnewline
      simp only [List.cons_append, splitLines, if_neg (Ne.symm hnewline.1)] at h
      split at h
      · next hnil =>
          -- nothing is after `c`, so `c` is all of the start
          have hstart : start = [] := (List.append_eq_nil_iff.1 (splitLines_eq_nil_iff.1 hnil)).1
          simp_all
      · next first later hlines =>
          obtain rfl : c :: first = line := by simpa using h
          have hfirst := ih (List.prefix_append start rest) hnewline.2 (by rw [hlines]; rfl)
          exact List.cons_prefix_cons.2 ⟨rfl, hfirst⟩

/-! ## Cuts -/

/-- The line of a text with the given number, which is one for the first line. -/
def line? (text : String) : Nat → Option String
  | 0 => none
  | number + 1 => (lines text)[number]?

/-- The text `before` is what is left of a text that is cut right before a line. -/
structure CutBefore (number : Nat) (text before : String) : Prop where
  rest : ∃ after, text = before ++ after
  ended : before = "" ∨ endsWith "\n" before
  count : (lines before).length + 1 = number

theorem splitLines_eq_cons_cons {cs line next : List Char} {more : List (List Char)}
    (h : splitLines cs = line :: next :: more) :
    ∃ rest, cs = line ++ '\n' :: rest ∧ splitLines rest = next :: more := by
  induction cs generalizing line with
  | nil => cases h
  | cons c cs ih =>
      rw [splitLines] at h
      split at h
      · next hc =>
          obtain ⟨rfl, hrest⟩ := List.cons.inj h
          exact ⟨cs, by rw [hc, List.nil_append], hrest⟩
      · split at h
        · simp at h
        · next first later hlines =>
            obtain ⟨rfl, rfl⟩ := List.cons.inj h
            obtain ⟨rest, rfl, hrest⟩ := ih hlines
            exact ⟨rest, rfl, hrest⟩

theorem exists_eq_append_of_splitLines {cs line : List Char} {before after : List (List Char)}
    (h : splitLines cs = before ++ line :: after) :
    ∃ rest, cs = (before.flatMap fun l => l ++ ['\n']) ++ rest := by
  induction before generalizing cs with
  | nil => exact ⟨cs, rfl⟩
  | cons first before ih =>
      obtain ⟨next, more, hmore⟩ := List.exists_cons_of_ne_nil
        (by simp : before ++ line :: after ≠ [])
      rw [List.cons_append, hmore] at h
      obtain ⟨rest, rfl, hrest⟩ := splitLines_eq_cons_cons h
      obtain ⟨rest, rfl⟩ := ih (hrest.trans hmore.symm)
      exact ⟨rest, by simp⟩

theorem endsWith_newline_unlines {ls : List String} (h : ls ≠ []) :
    endsWith "\n" (unlines ls) := by
  obtain ⟨init, last, rfl⟩ := (List.eq_nil_or_concat ls).resolve_left h
  rw [endsWith, List.isSuffixOf_iff_suffix]
  refine ⟨(init.flatMap fun l => l.toList ++ ['\n']) ++ last.toList, ?_⟩
  simp [unlines]

section
variable {text line : String} {before after : List String}
  (h : lines text = before ++ line :: after)
include h

/-- The lines before a line are those of the text that is cut before it. -/
theorem lines_cut : lines (unlines before) = before :=
  lines_unlines fun l hl =>
    have hmem : l ∈ lines text := by
      rw [h]
      simp [hl]
    newline_notMem_lines hmem

theorem cutBefore_unlines : CutBefore (before.length + 1) text (unlines before) where
  rest := by
    have hsplit : splitLines text.toList =
        before.map String.toList ++ line.toList :: after.map String.toList := by
      have := congrArg (List.map String.toList) h
      simpa [lines, Function.comp_def] using this
    obtain ⟨rest, hrest⟩ := exists_eq_append_of_splitLines hsplit
    refine ⟨String.ofList rest, String.toList_injective ?_⟩
    rw [hrest]
    simp [unlines, List.flatMap_map]
  ended := by
    cases before with
    | nil => exact .inl rfl
    | cons first before => exact .inr (endsWith_newline_unlines (List.cons_ne_nil _ _))
  count := by rw [lines_cut h]

theorem line?_before : line? text (before.length + 1) = some line := by
  rw [line?, h]
  simp

theorem line?_after : line? text (before.length + 1 + 1) = after.head? := by
  rw [line?, h, List.getElem?_append_right (Nat.le_succ _), List.head?_eq_getElem?]
  simp

end

end Changesets.Text
