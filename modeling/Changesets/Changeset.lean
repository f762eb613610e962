import Changesets.Publication.Value
import Changesets.Text.Search

/-!
A changeset as the service takes it: commits on a head ref, to be merged into a base ref of the same
repository.
-/
namespace Changesets

/-- What stands before the name of a branch in its ref. -/
def branchRefPrefix : String := "refs/heads/"

/-- The ref of a branch; a name that is one already stays as it is. -/
def refOfBranch (branch : String) : String :=
  if Text.startsWith branchRefPrefix branch then branch else branchRefPrefix ++ branch

structure Commit where
  message : String
  authorName : String
  authorEmail : String
  diff : String
  deriving DecidableEq

structure Changeset where
  baseRepository : String
  baseRef : String
  baseRev : String
  headRepository : String
  headRef : String
  title : String
  body : String
  commits : List Commit
  published : Publication.Value := .absent
  deriving DecidableEq

/-- The name of the head branch. -/
def Changeset.branch (changeset : Changeset) : String :=
  Text.withoutStart branchRefPrefix changeset.headRef

/-- The first commit, and the only one of an assembled changeset. -/
def Changeset.commit? (changeset : Changeset) : Option Commit :=
  changeset.commits.head?

end Changesets
