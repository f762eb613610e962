import Changesets.Diff.Error
import Changesets.Diff.GitHeader
import Changesets.Fallible
import Changesets.Text.Blank
import Changesets.Text.Lines

/-!
Reading a combined diff. Each reader takes the number of its first line and the lines that are left,
and gives back those that it did not use; the `length` lemmas say that these are fewer, which is why
reading ends.
-/
namespace Changesets.Diff

/-- Whether a line starts a new section outside of any other. -/
def startsFile (line : String) : Bool :=
  Text.startsWith "diff " line || Text.startsWith "--- " line

def startsHunk (line : String) : Bool :=
  Text.startsWith "@@ " line

/-- Whether a line of an extended header announces a binary patch. -/
def announcesBinary (line : String) : Bool :=
  line == "GIT binary patch" ||
    (Text.startsWith "Binary files " line && Text.endsWith " differ" line)

def endsExtended (line : String) : Bool :=
  startsFile line || startsHunk line || Text.isBlankText line

def isMarker (line : String) : Bool :=
  Text.startsWith "\\" line

/-- The extended header lines after the first, the binary patch that the last of them announces, and
the lines left. A binary patch goes on to the next `diff ` line, since blank lines separate its
blocks. -/
def takeExtended : List String → List String × List String × List String
  | [] => ([], [], [])
  | line :: rest =>
    if endsExtended line then ([], [], line :: rest)
    else if announcesBinary line then
      ([line], rest.takeWhile fun l => !Text.startsWith "diff " l,
        rest.dropWhile fun l => !Text.startsWith "diff " l)
    else
      let (extended, binary, left) := takeExtended rest
      (line :: extended, binary, left)

/-- Takes body lines until `old` and `new` lines of the two sides have been met. `start` is the
number of the hunk header and `number` that of the next line. -/
def takeBody (start number old new : Nat) (ls : List String) :
    Except ParseError (List String × List String) :=
  if old = 0 ∧ new = 0 then .ok ([], ls)
  else match ls with
    | [] => .error (.truncatedHunk start)
    | line :: rest =>
      match LineKind.ofLine? line with
      | none => .error (.truncatedHunk start)
      | some kind =>
        if old < kind.oldLines ∨ new < kind.newLines then .error (.hunkOverflow number)
        else
          (takeBody start (number + 1) (old - kind.oldLines) (new - kind.newLines) rest).map
            fun (body, left) => (line :: body, left)

/-- Takes the hunk whose header is `line`, with the markers that follow its last counted line. -/
def takeHunk (number : Nat) (line : String) (rest : List String) :
    Except ParseError (Hunk × List String) :=
  match HunkHeader.parse? line with
  | none => .error (.invalidHunkHeader number line)
  | some header =>
    (takeBody number (number + 1) header.old.count.toNat header.new.count.toNat rest).map
      fun (body, left) => (⟨header, body ++ left.takeWhile isMarker⟩, left.dropWhile isMarker)

theorem length_takeExtended (ls : List String) : (takeExtended ls).2.2.length ≤ ls.length := by
  induction ls with
  | nil => simp [takeExtended]
  | cons line rest ih =>
    rw [takeExtended]
    split
    · exact Nat.le_refl _
    · split
      · exact Nat.le_succ_of_le (List.dropWhile_suffix _).length_le
      · exact Nat.le_succ_of_le ih

theorem length_takeBody {start number old new : Nat} {ls body left : List String}
    (h : takeBody start number old new ls = .ok (body, left)) : left.length ≤ ls.length := by
  induction ls generalizing number old new body with
  | nil =>
    rw [takeBody] at h
    split at h <;> simp_all
  | cons line rest ih =>
    rw [takeBody] at h
    split at h
    · simp_all
    · split at h
      · simp at h
      · split at h
        · simp at h
        · obtain ⟨⟨_, _⟩, hb, he⟩ := map_eq_ok.1 h
          cases he
          exact Nat.le_succ_of_le (ih hb)

theorem length_takeHunk {number : Nat} {line : String} {rest left : List String} {hunk : Hunk}
    (h : takeHunk number line rest = .ok (hunk, left)) : left.length ≤ rest.length := by
  rw [takeHunk] at h
  split at h
  · simp at h
  · obtain ⟨⟨_, _⟩, hb, he⟩ := map_eq_ok.1 h
    cases he
    exact Nat.le_trans (List.dropWhile_suffix _).length_le (length_takeBody hb)

/-- Takes all hunks that follow. -/
def takeHunks (number : Nat) (ls : List String) : Except ParseError (List Hunk × List String) :=
  match ls with
  | [] => .ok ([], [])
  | line :: rest =>
    if startsHunk line then
      match _h : takeHunk number line rest with
      | .error e => .error e
      | .ok (hunk, left) =>
        (takeHunks (number + ((line :: rest).length - left.length)) left).map
          fun (hunks, left) => (hunk :: hunks, left)
    else .ok ([], line :: rest)
termination_by ls.length
decreasing_by exact Nat.lt_succ_of_le (length_takeHunk _h)

theorem length_takeHunks {number : Nat} {ls left : List String} {hunks : List Hunk}
    (h : takeHunks number ls = .ok (hunks, left)) : left.length ≤ ls.length := by
  fun_induction takeHunks number ls generalizing hunks with
  | case1 => simp_all
  | case2 => simp_all
  | case3 number line rest _ hunk middle hm ih =>
    obtain ⟨⟨_, _⟩, hs, he⟩ := map_eq_ok.1 h
    cases he
    exact Nat.le_trans (ih hs) (Nat.le_succ_of_le (length_takeHunk hm))
  | case4 => simp_all

/-- The name and the time of a header line, which a tab separates. -/
def Side.parse (text : String) : Side :=
  match Text.splitFirst? "\t" text with
  | some (name, time) => ⟨name, some time⟩
  | none => ⟨text, none⟩

/-- Takes the rest of a section after its `---` line, of which `old` is the text. -/
def takePatch (number : Nat) (extended : List String) (old : String) (ls : List String) :
    Except ParseError (File × List String) :=
  match ls with
  | [] => .error (.missingNewHeader number)
  | line :: rest =>
    match Text.dropStart? "+++ " line with
    | none => .error (.missingNewHeader number)
    | some new =>
      (takeHunks (number + 1) rest).map fun (hunks, left) =>
        ({ extended, old := Side.parse old, new := Side.parse new, hasHeader := true, hunks }, left)

/-- The section that an extended header and a binary patch are by themselves. -/
def File.headerOnly (extended binaryPatch : List String) : File :=
  let (old, new) := GitHeader.names extended
  { extended, binaryPatch, old := ⟨old, none⟩, new := ⟨new, none⟩ }

/-- Takes the section that starts with `line`, at the given number. -/
def takeFile (number : Nat) (line : String) (rest : List String) :
    Except ParseError (File × List String) :=
  match Text.dropStart? "--- " line with
  | some old => takePatch (number + 1) [] old rest
  | none =>
    let (later, binary, left) := takeExtended rest
    let extended := line :: later
    let next := number + 1 + (rest.length - left.length)
    match left with
    | [] => .ok (File.headerOnly extended binary, [])
    | l :: left' =>
      match Text.dropStart? "--- " l with
      | some old => takePatch (next + 1) extended old left'
      | none =>
        if startsHunk l then .error (.missingFileHeader next)
        else .ok (File.headerOnly extended binary, l :: left')

theorem length_takePatch {number : Nat} {extended ls left : List String} {old : String}
    {file : File} (h : takePatch number extended old ls = .ok (file, left)) :
    left.length ≤ ls.length := by
  unfold takePatch at h
  split at h
  · simp at h
  · split at h
    · simp at h
    · obtain ⟨⟨_, _⟩, hs, he⟩ := map_eq_ok.1 h
      cases he
      exact Nat.le_succ_of_le (length_takeHunks hs)

theorem length_takeFile {number : Nat} {line : String} {rest left : List String} {file : File}
    (h : takeFile number line rest = .ok (file, left)) : left.length ≤ rest.length := by
  have hl := length_takeExtended rest
  unfold takeFile at h
  split at h
  · exact length_takePatch h
  · generalize takeExtended rest = parts at h hl
    obtain ⟨later, binary, middle⟩ := parts
    simp only at h hl
    split at h
    · simp_all
    · split at h
      · exact Nat.le_trans (Nat.le_succ_of_le (length_takePatch h)) hl
      · split at h
        · simp at h
        · simp only [Except.ok.injEq, Prod.mk.injEq] at h
          exact h.2 ▸ hl

/-- Takes all sections. Blank lines between them are skipped. -/
def takeFiles (number : Nat) (ls : List String) : Except ParseError (List File) :=
  match ls with
  | [] => .ok []
  | line :: rest =>
    if startsFile line then
      match _h : takeFile number line rest with
      | .error e => .error e
      | .ok (file, left) =>
        (takeFiles (number + ((line :: rest).length - left.length)) left).map (file :: ·)
    else if Text.isBlankText line then takeFiles (number + 1) rest
    else .error (.unexpectedLine number line)
termination_by ls.length
decreasing_by
  · exact Nat.lt_succ_of_le (length_takeFile _h)
  · exact Nat.lt_succ_self _

/-- The sections of a combined diff, in order. A fault anywhere refuses all of it. -/
def parse (text : String) : Except ParseError (List File) :=
  takeFiles 1 (Text.lines text)

end Changesets.Diff
