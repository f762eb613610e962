import Changesets.Grouping.Group
import Changesets.Json
import Changesets.Publication.Policy
import Changesets.Text.Order

/-!
What an assembly starts from: a task for one repository, with the templates of its changesets, and
the result of executing the steps of the batch change there.
-/
namespace Changesets

structure Repository where
  id : String
  name : String
  baseRef : String
  baseRev : String
  fileMatches : List String := []
  deriving DecidableEq

def Repository.withFileMatches (repository : Repository) (paths : List String) : Repository :=
  { repository with fileMatches := paths }

/-- Leaves out every text that equals the one before it. -/
def dropRepeats : List String → List String
  | a :: b :: rest => if a = b then dropRepeats (b :: rest) else a :: dropRepeats (b :: rest)
  | texts => texts

/-- The paths of the file matches, each once and in the order of their bytes. -/
def Repository.searchResultPaths (repository : Repository) : List String :=
  dropRepeats (repository.fileMatches.mergeSort fun a b => !Text.precedes b a)

structure BatchChange where
  name : String
  description : String := ""
  deriving DecidableEq

/-- The author of a commit, or the templates of one. -/
structure Author where
  name : String
  email : String
  deriving DecidableEq

structure CommitTemplate where
  message : String
  author : Option Author := none
  deriving DecidableEq

def CommitTemplate.withAuthor (template : CommitTemplate) (name email : String) : CommitTemplate :=
  { template with author := some ⟨name, email⟩ }

structure ChangesetTemplate where
  title : String
  body : String := ""
  branch : String
  commit : CommitTemplate
  published : Option Publication.Policy := none
  deriving DecidableEq

def ChangesetTemplate.withBody (template : ChangesetTemplate) (body : String) : ChangesetTemplate :=
  { template with body }

def ChangesetTemplate.withPublished (template : ChangesetTemplate) (policy : Publication.Policy) :
    ChangesetTemplate :=
  { template with published := some policy }

structure Task where
  repository : Repository
  batchChange : BatchChange := { name := "" }
  template : ChangesetTemplate
  /-- The groups of all repositories, if the batch change splits its diffs at all. -/
  groups : Option (List Group) := none
  deriving DecidableEq

def Task.withGroups (task : Task) (groups : List Group) : Task :=
  { task with groups := some groups }

/-- The groups of the task that apply to its repository. -/
def Task.applicableGroups (task : Task) : List Group :=
  Group.applicable task.repository.name (task.groups.getD [])

structure ChangedFiles where
  modified : List String := []
  added : List String := []
  deleted : List String := []
  renamed : List String := []
  deriving DecidableEq

/-- The result of the steps. Outputs are ordered by their keys. -/
structure Execution where
  diff : String
  changedFiles : ChangedFiles := {}
  outputs : List (String × Json) := []
  path : String := ""

def Execution.withChangedFiles (execution : Execution) (changedFiles : ChangedFiles) : Execution :=
  { execution with changedFiles }

def Execution.withPath (execution : Execution) (path : String) : Execution :=
  { execution with path }

def Execution.setOutput (execution : Execution) (key : String) (value : Json) : Execution :=
  { execution with outputs := Json.insertMember key value execution.outputs }

end Changesets
