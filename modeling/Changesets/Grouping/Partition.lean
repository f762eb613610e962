import Changesets.Diff.Parser
import Changesets.Diff.Printer
import Changesets.Grouping.Group

/-!
Splitting a combined diff over branches. The default branch comes first, with or without files; the
other branches follow in the order in which their first file appears, and files keep their order
within a branch.
-/
namespace Changesets

structure BranchDiff where
  branch : String
  diff : String
  deriving DecidableEq

structure BranchDiffs where
  entries : List BranchDiff
  deriving DecidableEq

namespace BranchDiffs

/-- The whole diff on one branch. -/
def single (branch diff : String) : BranchDiffs :=
  ⟨[⟨branch, diff⟩]⟩

def branches (diffs : BranchDiffs) : List String :=
  diffs.entries.map (·.branch)

def get? (diffs : BranchDiffs) (branch : String) : Option String :=
  (diffs.entries.find? (·.branch == branch)).map (·.diff)

end BranchDiffs

/-- Why a combined diff cannot be split. -/
inductive PartitionError
  | parse (e : Diff.ParseError)
  | print (e : Diff.PrintError)
  deriving DecidableEq

def PartitionError.message : PartitionError → String
  | parse e => "parsing multi file diff failed: " ++ e.message
  | print e => "printing multi file diff failed: " ++ e.message

/-- Adds a file to those of its branch, which gets a new last place if it has none yet. -/
def addToBranch (branch : String) (file : Diff.File) :
    List (String × List Diff.File) → List (String × List Diff.File)
  | [] => [(branch, [file])]
  | (name, files) :: rest =>
    if name = branch then (name, files ++ [file]) :: rest
    else (name, files) :: addToBranch branch file rest

/-- The files of each branch. -/
def filesByBranch (groups : List Group) (default : String) (files : List Diff.File) :
    List (String × List Diff.File) :=
  files.foldl (fun byBranch file =>
    addToBranch (Group.route groups default file.effectivePath) file byBranch) [(default, [])]

/-- The diff of one branch. -/
def BranchDiff.ofFiles (branch : String) (files : List Diff.File) :
    Except PartitionError BranchDiff :=
  match Diff.print files with
  | .ok diff => .ok ⟨branch, diff⟩
  | .error e => .error (.print e)

/-- Splits a combined diff over the default branch and the branches of the groups. -/
def BranchDiffs.partition (groups : List Group) (default text : String) :
    Except PartitionError BranchDiffs :=
  match Diff.parse text with
  | .error e => .error (.parse e)
  | .ok files =>
    ((filesByBranch groups default files).mapM fun (branch, files) =>
      BranchDiff.ofFiles branch files).map BranchDiffs.mk

end Changesets
