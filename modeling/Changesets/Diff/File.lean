import Changesets.Diff.Hunk

/-!
One file's section of a combined diff. Names are kept as the diff has them, with their `a/` and `b/`
prefixes and their quotes, so that a section is written as it was read.
-/
namespace Changesets.Diff

/-- The name that stands for the missing side of an added or deleted file. -/
def devNull : String := "/dev/null"

/-- The name of a file on one side, with the time stamp of its header line. -/
structure Side where
  name : String := ""
  time : Option String := none
  deriving DecidableEq

/-- A section: extended header lines, the lines of a binary patch, the two header lines that start
with `---` and `+++` if it has them, and hunks. -/
structure File where
  extended : List String := []
  binaryPatch : List String := []
  old : Side := {}
  new : Side := {}
  hasHeader : Bool := false
  hunks : List Hunk := []
  deriving DecidableEq

namespace File

/-- A section with the two header lines and nothing else. -/
def withNames (oldName newName : String) : File :=
  { old := ⟨oldName, none⟩, new := ⟨newName, none⟩, hasHeader := true }

def addExtended (file : File) (line : String) : File :=
  { file with extended := file.extended ++ [line] }

def addHunk (file : File) (hunk : Hunk) : File :=
  { file with hunks := file.hunks ++ [hunk] }

def isAdded (file : File) : Bool :=
  file.old.name == devNull

def isDeleted (file : File) : Bool :=
  file.new.name == devNull

end File

/-- The characters between a quote at the front and another at the end. -/
def unquoted? : List Char → Option (List Char)
  | '"' :: rest => if rest.getLast? = some '"' then some rest.dropLast else none
  | _ => none

/-- The name without quotes around it; what is escaped inside them stays so. -/
def withoutQuotes (name : String) : String :=
  ((unquoted? name.toList).map String.ofList).getD name

/-- The path that identifies the file: its new name, or its old one if it was deleted. -/
def File.effectivePath (file : File) : String :=
  withoutQuotes (if file.isDeleted then file.old.name else file.new.name)

end Changesets.Diff
