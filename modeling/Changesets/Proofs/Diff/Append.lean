import Changesets.Proofs.Diff.Hunk
import Changesets.Proofs.Fallible
import Changesets.Proofs.Text.Lines
import Mathlib.Data.List.Infix

/-!
Reading a diff in two parts. A `diff ` line ends whatever a reader is in the middle of, just as the
end of the text does, so a text that is cut before such a line is read part by part: the sections of
the parts follow each other, and a fault is that of the part it is in. `takeFiles_append` says so of
lines, and each reader before it has a lemma of the same form. The lemmas on shifted numbers say that
the number of the first line changes nothing but the numbers in faults.
-/
namespace Changesets.Diff

theorem takeHunks_cons (number : Nat) (line : String) (rest : List String) :
    takeHunks number (line :: rest) =
      if startsHunk line then
        (takeHunk number line rest).bind fun (hunk, left) =>
          (takeHunks (number + ((line :: rest).length - left.length)) left).map
            fun (hunks, left) => (hunk :: hunks, left)
      else .ok ([], line :: rest) := by
  rw [takeHunks]
  cases takeHunk number line rest <;> rfl

theorem takeFiles_cons (number : Nat) (line : String) (rest : List String) :
    takeFiles number (line :: rest) =
      if startsFile line then
        (takeFile number line rest).bind fun (file, left) =>
          (takeFiles (number + ((line :: rest).length - left.length)) left).map (file :: ·)
      else if Text.isBlankText line then takeFiles (number + 1) rest
      else .error (.unexpectedLine number line) := by
  rw [takeFiles]
  cases takeFile number line rest <;> rfl

/-! ## Lines after those of a text -/

/-- There are no lines, or the first of them is a `diff ` line. -/
def StartsGit (more : List String) : Prop :=
  ∀ line ∈ more.head?, Text.startsWith "diff " line

section
variable {more : List String} (hmore : StartsGit more)
include hmore

theorem takeWhile_append_of_startsGit {p : String → Bool}
    (hp : ∀ line, Text.startsWith "diff " line → p line = false) (ls : List String) :
    (ls ++ more).takeWhile p = ls.takeWhile p ∧
      (ls ++ more).dropWhile p = ls.dropWhile p ++ more := by
  induction ls with
  | nil =>
      have hnone : ∀ line ∈ ([] : List String), p line := by simp
      simpa using takeWhile_append_of_head hnone fun line hline => hp line (hmore line hline)
  | cons line ls ih =>
      cases h : p line <;> simp [h, ih]

theorem takeExtended_append_of_startsGit (ls : List String) :
    takeExtended (ls ++ more) =
      ((takeExtended ls).1, (takeExtended ls).2.1, (takeExtended ls).2.2 ++ more) := by
  induction ls with
  | nil =>
      cases more with
      | nil => rfl
      | cons line more =>
          have hline := hmore line rfl
          simp [takeExtended, endsExtended, startsFile, hline]
  | cons line ls ih =>
      have hpatch := takeWhile_append_of_startsGit hmore
        (p := fun l => !Text.startsWith "diff " l) (fun l hl => by simp [hl]) ls
      simp only [List.cons_append, takeExtended]
      split
      · rfl
      · split
        · rw [hpatch.1, hpatch.2]
        · rw [ih]

theorem takeBody_append_of_startsGit (start number old new : Nat) (ls : List String) :
    takeBody start number old new (ls ++ more) =
      (takeBody start number old new ls).map fun (body, left) => (body, left ++ more) := by
  induction ls generalizing number old new with
  | nil =>
      cases more with
      | nil => cases h : takeBody start number old new [] <;> simp [h]
      | cons line more =>
          -- while lines are missing, the end of them and a line of no kind are the same fault
          have hkind : LineKind.ofLine? line = none := by
            rw [← Option.not_isSome_iff_eq_none, ← isBodyLine_iff]
            intro hbody
            simpa [not_diff_of_isBodyLine hbody] using hmore line rfl
          by_cases hcounts : old = 0 ∧ new = 0 <;> simp [takeBody, hcounts, hkind]
  | cons line ls ih =>
      simp only [List.cons_append, takeBody]
      split
      · rfl
      · split
        · rfl
        · split
          · rfl
          · rw [ih]
            cases takeBody start (number + 1) _ _ ls <;> rfl

theorem takeHunk_append_of_startsGit (number : Nat) (line : String) (ls : List String) :
    takeHunk number line (ls ++ more) =
      (takeHunk number line ls).map fun (hunk, left) => (hunk, left ++ more) := by
  have hmarkers := takeWhile_append_of_startsGit hmore (p := isMarker)
    fun l hl => Text.startsWith_eq_false hl (by decide)
  simp only [takeHunk]
  split
  · rfl
  · rw [takeBody_append_of_startsGit hmore]
    cases takeBody number (number + 1) _ _ ls with
    | error e => rfl
    | ok taken => simp [map_ok, hmarkers]

theorem takeHunks_append_of_startsGit (number : Nat) (ls : List String) :
    takeHunks number (ls ++ more) =
      (takeHunks number ls).map fun (hunks, left) => (hunks, left ++ more) := by
  fun_induction takeHunks number ls with
  | case1 number =>
      cases more with
      | nil => simp [takeHunks]
      | cons line more =>
          have hline : startsHunk line = false :=
            Text.startsWith_eq_false (hmore line rfl) (by decide)
          simp [takeHunks, hline]
  | case2 number line ls hline e he =>
      rw [List.cons_append, takeHunks_cons, if_pos hline,
        takeHunk_append_of_startsGit hmore, he]
      rfl
  | case3 number line ls hline hunk left hhunk ih =>
      rw [List.cons_append, takeHunks_cons, if_pos hline,
        takeHunk_append_of_startsGit hmore, hhunk]
      simp only [map_ok, bind_ok, ← List.cons_append, List.length_append,
        Nat.add_sub_add_right, ih]
      cases takeHunks _ left <;> rfl
  | case4 number line ls hline =>
      rw [List.cons_append, takeHunks_cons, if_neg hline]
      rfl

theorem takePatch_append_of_startsGit (number : Nat) (extended : List String) (old : String)
    (ls : List String) :
    takePatch number extended old (ls ++ more) =
      (takePatch number extended old ls).map fun (file, left) => (file, left ++ more) := by
  cases ls with
  | nil =>
      cases more with
      | nil => rfl
      | cons line more =>
          have hline : Text.dropStart? "+++ " line = none :=
            Text.dropStart?_eq_none.2 (Text.startsWith_eq_false (hmore line rfl) (by decide))
          simp [takePatch, hline]
  | cons line ls =>
      simp only [List.cons_append, takePatch]
      split
      · rfl
      · rw [takeHunks_append_of_startsGit hmore]
        cases takeHunks (number + 1) ls <;> rfl

theorem takeFile_append_of_startsGit (number : Nat) (line : String) (ls : List String) :
    takeFile number line (ls ++ more) =
      (takeFile number line ls).map fun (file, left) => (file, left ++ more) := by
  unfold takeFile
  split
  · rw [takePatch_append_of_startsGit hmore]
  · rw [takeExtended_append_of_startsGit hmore]
    generalize takeExtended ls = parts
    obtain ⟨later, binary, left⟩ := parts
    simp only [List.length_append, Nat.add_sub_add_right]
    cases left with
    | nil =>
        -- the text ends in an extended header or a binary patch
        cases more with
        | nil => rfl
        | cons l more =>
            have hdiff := hmore l rfl
            have hold : Text.dropStart? "--- " l = none :=
              Text.dropStart?_eq_none.2 (Text.startsWith_eq_false hdiff (by decide))
            have hhunk : startsHunk l = false := Text.startsWith_eq_false hdiff (by decide)
            simp [hold, hhunk]
    | cons l left =>
        simp only [List.cons_append]
        split
        · rw [takePatch_append_of_startsGit hmore]
        · split <;> rfl

/-- Lines that start with a `diff ` line are read as if nothing stood before them, and what stands
before them as if it were all. -/
theorem takeFiles_append (number : Nat) (ls : List String) :
    takeFiles number (ls ++ more) =
      (takeFiles number ls).bind fun files =>
        (takeFiles (number + ls.length) more).map (files ++ ·) := by
  fun_induction takeFiles number ls with
  | case1 number =>
      simp only [List.nil_append, List.length_nil, Nat.add_zero, bind_ok]
      cases takeFiles number more <;> rfl
  | case2 number line ls hline e he =>
      rw [List.cons_append, takeFiles_cons, if_pos hline, takeFile_append_of_startsGit hmore, he]
      rfl
  | case3 number line ls hline file left hfile ih =>
      -- the lines of the section are as many with `more` at the end as without
      have hlength := length_takeFile hfile
      have hnumber : number + ((line :: ls).length - left.length) + left.length =
          number + (line :: ls).length := by
        rw [List.length_cons]
        omega
      rw [hnumber] at ih
      rw [List.cons_append, takeFiles_cons, if_pos hline, takeFile_append_of_startsGit hmore,
        hfile]
      simp only [map_ok, bind_ok, ← List.cons_append, List.length_append,
        Nat.add_sub_add_right, ih]
      cases takeFiles _ left with
      | error e => rfl
      | ok files => cases takeFiles (number + (line :: ls).length) more <;> rfl
  | case4 number line ls hline hblank ih =>
      rw [List.cons_append, takeFiles_cons, if_neg hline, if_pos hblank, ih, List.length_cons]
      simp only [Nat.add_comm, Nat.add_left_comm]
  | case5 number line ls hline hblank =>
      rw [List.cons_append, takeFiles_cons, if_neg hline, if_neg hblank]
      rfl

end

/-! ## Lines before a text -/

section
variable (count : Nat)

theorem takeBody_shift (start number old new : Nat) (ls : List String) :
    takeBody (start + count) (number + count) old new ls =
      (takeBody start number old new ls).mapError (ParseError.shift count) := by
  induction ls generalizing number old new with
  | nil =>
      simp only [takeBody]
      split <;> rfl
  | cons line ls ih =>
      simp only [takeBody]
      split
      · rfl
      · split
        · rfl
        · split
          · rfl
          · rw [Nat.add_right_comm, ih]
            cases takeBody start (number + 1) _ _ ls <;> rfl

theorem takeHunk_shift (number : Nat) (line : String) (ls : List String) :
    takeHunk (number + count) line ls =
      (takeHunk number line ls).mapError (ParseError.shift count) := by
  simp only [takeHunk]
  split
  · rfl
  · rw [Nat.add_right_comm, takeBody_shift]
    cases takeBody number (number + 1) _ _ ls <;> rfl

theorem takeHunks_shift (number : Nat) (ls : List String) :
    takeHunks (number + count) ls =
      (takeHunks number ls).mapError (ParseError.shift count) := by
  fun_induction takeHunks number ls with
  | case1 number => rw [takeHunks]; rfl
  | case2 number line ls hline e he =>
      rw [takeHunks_cons, if_pos hline, takeHunk_shift, he]
      rfl
  | case3 number line ls hline hunk left hhunk ih =>
      rw [Nat.add_right_comm] at ih
      rw [takeHunks_cons, if_pos hline, takeHunk_shift, hhunk]
      simp only [mapError_ok, bind_ok, ih]
      cases takeHunks _ left <;> rfl
  | case4 number line ls hline =>
      rw [takeHunks_cons, if_neg hline]
      rfl

theorem takePatch_shift (number : Nat) (extended : List String) (old : String)
    (ls : List String) :
    takePatch (number + count) extended old ls =
      (takePatch number extended old ls).mapError (ParseError.shift count) := by
  unfold takePatch
  split
  · rfl
  · split
    · rfl
    · rw [Nat.add_right_comm, takeHunks_shift]
      cases takeHunks (number + 1) _ <;> rfl

theorem takeFile_shift (number : Nat) (line : String) (ls : List String) :
    takeFile (number + count) line ls =
      (takeFile number line ls).mapError (ParseError.shift count) := by
  unfold takeFile
  split
  · rw [Nat.add_right_comm, takePatch_shift]
  · generalize takeExtended ls = parts
    obtain ⟨later, binary, left⟩ := parts
    have hnext : number + count + 1 + (ls.length - left.length) =
        number + 1 + (ls.length - left.length) + count := by omega
    simp only [hnext]
    cases left with
    | nil => rfl
    | cons l left =>
        simp only
        split
        · rw [Nat.add_right_comm, takePatch_shift]
        · split <;> rfl

/-- The number of the first line matters only to the numbers in faults. -/
theorem takeFiles_shift (number : Nat) (ls : List String) :
    takeFiles (number + count) ls =
      (takeFiles number ls).mapError (ParseError.shift count) := by
  fun_induction takeFiles number ls with
  | case1 number => rw [takeFiles]; rfl
  | case2 number line ls hline e he =>
      rw [takeFiles_cons, if_pos hline, takeFile_shift, he]
      rfl
  | case3 number line ls hline file left hfile ih =>
      rw [Nat.add_right_comm] at ih
      rw [takeFiles_cons, if_pos hline, takeFile_shift, hfile]
      simp only [mapError_ok, bind_ok, ih]
      cases takeFiles _ left <;> rfl
  | case4 number line ls hline hblank ih =>
      rw [takeFiles_cons, if_neg hline, if_pos hblank, Nat.add_right_comm, ih]
  | case5 number line ls hline hblank =>
      rw [takeFiles_cons, if_neg hline, if_neg hblank]
      rfl

end

/-! ## Texts -/

theorem startsGit_lines {y : String} (hy : Text.startsWith "diff " y) :
    StartsGit (Text.lines y) := by
  intro line hline
  rw [Option.mem_def, Text.lines, List.head?_map, Option.map_eq_some_iff] at hline
  obtain ⟨cs, hcs, rfl⟩ := hline
  have hprefix := Text.prefix_of_head?_splitLines (Text.startsWith_iff.1 hy) (by decide) hcs
  simpa [Text.startsWith_iff] using hprefix

/-- A diff and one after it that starts with a `diff ` line are read together as each by itself. The
first fault counts; one in the later diff has its line number raised by the lines before. -/
theorem parse_append {x y : String} (hx : x = "" ∨ Text.endsWith "\n" x)
    (hy : Text.startsWith "diff " y) :
    (∀ e, parse x = .error e → parse (x ++ y) = .error e) ∧
      (∀ before after, parse x = .ok before → parse y = .ok after →
        parse (x ++ y) = .ok (before ++ after)) ∧
      ∀ before e, parse x = .ok before → parse y = .error e →
        parse (x ++ y) = .error (e.shift (Text.lines x).length) := by
  have happend : parse (x ++ y) = (parse x).bind fun before =>
      ((parse y).mapError (ParseError.shift (Text.lines x).length)).map (before ++ ·) := by
    rw [parse, Text.lines_append hx, takeFiles_append (startsGit_lines hy), takeFiles_shift]
    rfl
  rw [happend]
  refine ⟨fun e he => ?_, fun before after hbefore hafter => ?_, fun before e hbefore he => ?_⟩
  · rw [he]
    rfl
  · rw [hbefore, hafter]
    rfl
  · rw [hbefore, he]
    rfl

/-- A binary patch that goes on to the end of the text. -/
def openPatch : String :=
  Text.unlines ["diff --git a/x b/x", "GIT binary patch", "literal 0", ""]

/-- A section with a hunk header that is none. -/
def brokenHunk : String :=
  Text.unlines ["diff --git a/y b/y", "--- a/y", "+++ b/y", "@@ -1 +1 @"]

/-- The line that is the fourth of the later diff is the eighth of both. -/
theorem parse_openPatch_append_brokenHunk :
    (parse openPatch).isOk ∧ parse brokenHunk = .error (.invalidHunkHeader 4 "@@ -1 +1 @") ∧
      parse (openPatch ++ brokenHunk) = .error (.invalidHunkHeader 8 "@@ -1 +1 @") := by
  have hbefore : parse openPatch =
      .ok [File.headerOnly ["diff --git a/x b/x", "GIT binary patch"] ["literal 0", ""]] := by
    decide +kernel
  have he : parse brokenHunk = .error (.invalidHunkHeader 4 "@@ -1 +1 @") := by decide +kernel
  exact ⟨by rw [hbefore]; rfl, he,
    (parse_append (.inr (by decide)) (by decide)).2.2 _ _ hbefore he⟩

end Changesets.Diff
