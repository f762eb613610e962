import Changesets.Task.Wire

/-!
What templates can see: the batch change, the files that the steps changed, the outputs of the steps
and the repository.
-/
namespace Changesets.Template

structure Steps where
  modifiedFiles : List String
  addedFiles : List String
  deletedFiles : List String
  renamedFiles : List String
  path : String

structure Context where
  batchChange : BatchChange
  steps : Steps
  outputs : List (String × Json)
  repositoryName : String
  searchResultPaths : List String

/-- The context of a task and the result of its steps. -/
def Context.ofTask (task : Task) (execution : Execution) : Context where
  batchChange := task.batchChange
  steps :=
    { modifiedFiles := execution.changedFiles.modified
      addedFiles := execution.changedFiles.added
      deletedFiles := execution.changedFiles.deleted
      renamedFiles := execution.changedFiles.renamed
      path := execution.path }
  outputs := execution.outputs
  repositoryName := task.repository.name
  searchResultPaths := task.repository.searchResultPaths

def Steps.toJson (steps : Steps) : Json :=
  .object [("modified_files", .strings steps.modifiedFiles),
    ("added_files", .strings steps.addedFiles), ("deleted_files", .strings steps.deletedFiles),
    ("renamed_files", .strings steps.renamedFiles), ("path", .string steps.path)]

/-- The names that a template can use, with their values. -/
def Context.names (context : Context) : List (String × Json) :=
  [("batch_change", context.batchChange.toJson), ("steps", context.steps.toJson),
    ("outputs", .object context.outputs),
    ("repository", .object [("name", .string context.repositoryName),
      ("search_result_paths", .strings context.searchResultPaths)])]

def Context.toJson (context : Context) : Json :=
  .object context.names

end Changesets.Template
