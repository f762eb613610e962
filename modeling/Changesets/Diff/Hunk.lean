import Changesets.Decimal.Word
import Changesets.Text.Search

/-!
Hunks of a unified diff: a header line that declares how many lines each side has, and a body whose
lines are told apart by their first character. A written header always has both counts; a read one
may leave out a count of one.
-/
namespace Changesets.Diff

/-- What a body line stands for. -/
inductive LineKind
  | context
  | removed
  | added
  | marker
  deriving DecidableEq

/-- An empty line counts as context, since some tools strip the space of a blank context line. -/
def LineKind.ofLine? (line : String) : Option LineKind :=
  match line.toList with
  | [] | ' ' :: _ => some .context
  | '-' :: _ => some .removed
  | '+' :: _ => some .added
  | '\\' :: _ => some .marker
  | _ => none

/-- How many lines of the old side a line of this kind is. -/
def LineKind.oldLines : LineKind → Nat
  | .context | .removed => 1
  | .added | .marker => 0

/-- How many lines of the new side a line of this kind is. -/
def LineKind.newLines : LineKind → Nat
  | .context | .added => 1
  | .removed | .marker => 0

/-- The lines of a body, each counted by its kind; a line of no kind does not count. -/
def countLines (count : LineKind → Nat) : List String → Nat
  | [] => 0
  | line :: body => (LineKind.ofLine? line).elim 0 count + countLines count body

/-- The lines of the old side in a body. -/
def oldLines (body : List String) : Nat :=
  countLines LineKind.oldLines body

/-- The lines of the new side in a body. -/
def newLines (body : List String) : Nat :=
  countLines LineKind.newLines body

/-- Where a hunk stands on one side, and how many lines it has there. -/
structure Range where
  start : UInt64
  count : UInt64
  deriving DecidableEq

structure HunkHeader where
  old : Range
  new : Range
  heading : String := ""
  deriving DecidableEq

structure Hunk where
  header : HunkHeader
  body : List String := []
  deriving DecidableEq

/-- The hunk with one more line at the end of its body. -/
def Hunk.addLine (hunk : Hunk) (line : String) : Hunk :=
  { hunk with body := hunk.body ++ [line] }

/-- Whether the body has as many lines on each side as the header declares. -/
def Hunk.Consistent (hunk : Hunk) : Prop :=
  oldLines hunk.body = hunk.header.old.count.toNat ∧
    newLines hunk.body = hunk.header.new.count.toNat

instance (hunk : Hunk) : Decidable hunk.Consistent :=
  inferInstanceAs (Decidable (_ ∧ _))

/-- Reads `start` or `start,count`. -/
def Range.parse? (text : String) : Option Range :=
  match Text.splitFirst? "," text with
  | some (start, count) => do
    let start ← Decimal.word? start.toList
    let count ← Decimal.word? count.toList
    return ⟨start, count⟩
  | none => (Decimal.word? text.toList).map fun start => ⟨start, 1⟩

def Range.print (range : Range) : String :=
  String.ofList (Decimal.digits range.start.toNat ++ ',' :: Decimal.digits range.count.toNat)

/-- Reads `@@ -old +new @@ heading`. The ranges end at the first ` @@`, so that a heading may hold
another. -/
def HunkHeader.parse? (line : String) : Option HunkHeader := do
  let rest ← Text.dropStart? "@@ -" line
  let (ranges, heading) ← Text.splitFirst? " @@" rest
  let (old, new) ← Text.splitFirst? " +" ranges
  let old ← Range.parse? old
  let new ← Range.parse? new
  return ⟨old, new, Text.withoutStart " " heading⟩

def HunkHeader.print (header : HunkHeader) : String :=
  "@@ -" ++ header.old.print ++ " +" ++ header.new.print ++ " @@" ++
    if header.heading.isEmpty then "" else " " ++ header.heading

end Changesets.Diff
