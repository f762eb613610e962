import Changesets.Text.Quoted
import Changesets.Text.Search

/-!
Groups send the files of a directory to a branch of their own. The groups of one repository must name
branches that differ from each other and from the branch of the template.
-/
namespace Changesets

/-- An empty repository means that the group applies to all repositories. -/
structure Group where
  repository : String := ""
  directory : String
  branch : String
  deriving DecidableEq

namespace Group

def forRepository (group : Group) (repository : String) : Group :=
  { group with repository }

def appliesTo (repository : String) (group : Group) : Bool :=
  group.repository.isEmpty || group.repository == repository

/-- The groups that apply to a repository, in order. -/
def applicable (repository : String) (groups : List Group) : List Group :=
  groups.filter (appliesTo repository)

/-- Two changesets of one repository that would have the same branch. -/
inductive Conflict
  /-- Two groups name the branch. -/
  | duplicateBranch (repository branch : String)
  /-- A group names the branch of the template. -/
  | defaultBranch (repository branch : String)
  deriving DecidableEq

def Conflict.message : Conflict → String
  | duplicateBranch repository branch =>
    s!"transformChanges would lead to multiple changesets in repository {repository} to have " ++
      "the same branch " ++ Text.quoted branch
  | defaultBranch repository branch =>
    s!"transformChanges group branch for repository {repository} is the same as branch " ++
      Text.quoted branch ++ " in changesetTemplate"

/-- The first conflict among the groups, after groups with the branches `seen`. For each group a
duplicate counts before a clash with the default branch. -/
def conflictAfter? (repository default : String) (seen : List String) : List Group → Option Conflict
  | [] => none
  | group :: rest =>
    if group.branch ∈ seen then some (.duplicateBranch repository group.branch)
    else if group.branch = default then some (.defaultBranch repository default)
    else conflictAfter? repository default (group.branch :: seen) rest

def conflict? (repository default : String) (groups : List Group) : Option Conflict :=
  conflictAfter? repository default [] groups

/-- The branch of the last group whose directory stands somewhere in the path. An empty directory
stands in every path but has no branch to offer, so that the file stays on the default branch. -/
def route (groups : List Group) (default path : String) : String :=
  match groups.findRev? fun group => Text.contains group.directory path with
  | some group => if group.directory.isEmpty then default else group.branch
  | none => default

end Changesets.Group
