import Changesets.Text.Quoted

/-!
Why a diff cannot be read or written. Lines are numbered from one.
-/
namespace Changesets.Diff

inductive ParseError
  /-- A line between files that starts none and is not blank. -/
  | unexpectedLine (number : Nat) (line : String)
  /-- No `+++` line after a `---` line. -/
  | missingNewHeader (number : Nat)
  /-- A hunk in a section without `---` and `+++` lines. -/
  | missingFileHeader (number : Nat)
  | invalidHunkHeader (number : Nat) (line : String)
  /-- A hunk body that ends before both counts are used up; the number is that of its header. -/
  | truncatedHunk (number : Nat)
  /-- A body line past the count of its side. -/
  | hunkOverflow (number : Nat)
  deriving DecidableEq

def ParseError.number : ParseError → Nat
  | unexpectedLine number _ | missingNewHeader number | missingFileHeader number
  | invalidHunkHeader number _ | truncatedHunk number | hunkOverflow number => number

/-- The same fault in a text with `count` more lines before it. -/
def ParseError.shift (count : Nat) : ParseError → ParseError
  | unexpectedLine number line => unexpectedLine (number + count) line
  | missingNewHeader number => missingNewHeader (number + count)
  | missingFileHeader number => missingFileHeader (number + count)
  | invalidHunkHeader number line => invalidHunkHeader (number + count) line
  | truncatedHunk number => truncatedHunk (number + count)
  | hunkOverflow number => hunkOverflow (number + count)

def ParseError.message : ParseError → String
  | unexpectedLine number line =>
    s!"line {number}: unexpected content outside of a file diff: " ++ Text.quoted line
  | missingNewHeader number => s!"line {number}: expected '+++ ' header after '--- ' header"
  | missingFileHeader number => s!"line {number}: hunk without a '--- '/'+++ ' file header"
  | invalidHunkHeader number line =>
    s!"line {number}: malformed hunk header " ++ Text.quoted line
  | truncatedHunk number =>
    s!"hunk starting at line {number} ends before its declared line counts"
  | hunkOverflow number =>
    s!"line {number}: hunk body exceeds the line counts declared in its header"

/-- A hunk whose body has not the lines that its header declares. -/
structure PrintError where
  path : String
  declaredOld : Nat
  declaredNew : Nat
  actualOld : Nat
  actualNew : Nat
  deriving DecidableEq

def PrintError.message (e : PrintError) : String :=
  s!"hunk in '{e.path}' declares -{e.declaredOld} +{e.declaredNew} lines but its body has " ++
    s!"-{e.actualOld} +{e.actualNew}"

end Changesets.Diff
