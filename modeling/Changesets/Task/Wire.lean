import Changesets.Publication.Wire
import Changesets.Task

/-!
Tasks and execution results in JSON.
-/
namespace Changesets

open Json (Decoder Record)
open Json.Record (required optional)

def Repository.decode : Decoder Repository :=
  Record.decode "RepositoryTarget" <|
    Repository.mk <$> required "id" .text <*> required "name" .text <*>
      required "baseRef" .text <*> required "baseRev" .text <*>
      optional "fileMatches" (.listOf .text) []

def Repository.toJson (repository : Repository) : Json :=
  .object [("id", .string repository.id), ("name", .string repository.name),
    ("baseRef", .string repository.baseRef), ("baseRev", .string repository.baseRev),
    ("fileMatches", .strings repository.fileMatches)]

def BatchChange.decode : Decoder BatchChange :=
  Record.decode "BatchChangeAttributes" <|
    BatchChange.mk <$> required "name" .text <*> optional "description" .text ""

def BatchChange.toJson (batchChange : BatchChange) : Json :=
  .object [("name", .string batchChange.name), ("description", .string batchChange.description)]

def Author.decode : Decoder Author :=
  Record.decode "AuthorTemplate" <|
    Author.mk <$> required "name" .text <*> required "email" .text

def CommitTemplate.decode : Decoder CommitTemplate :=
  Record.decode "CommitTemplate" <|
    CommitTemplate.mk <$> required "message" .text <*>
      optional "author" (.nullable Author.decode) none

def ChangesetTemplate.decode : Decoder ChangesetTemplate :=
  Record.decode "ChangesetTemplate" <|
    ChangesetTemplate.mk <$> required "title" .text <*> optional "body" .text "" <*>
      required "branch" .text <*> required "commit" CommitTemplate.decode <*>
      optional "published" (.nullable Publication.Policy.decode) none

def Group.decode : Decoder Group :=
  Record.decode "Group" <|
    Group.mk <$> optional "repository" .text "" <*> required "directory" .text <*>
      required "branch" .text

/-- The groups of a `transformChanges` value. -/
def Group.decodeAll : Decoder (List Group) :=
  Record.decode "TransformChanges" (optional "group" (.listOf Group.decode) [])

def Task.decode : Decoder Task :=
  Record.decode "Task" <|
    Task.mk <$> required "repository" Repository.decode <*>
      optional "batchChange" BatchChange.decode { name := "" } <*>
      required "template" ChangesetTemplate.decode <*>
      optional "transformChanges" (.nullable Group.decodeAll) none

def ChangedFiles.decode : Decoder ChangedFiles :=
  Record.decode "ChangedFiles" <|
    ChangedFiles.mk <$> optional "modified" (.listOf .text) [] <*>
      optional "added" (.listOf .text) [] <*> optional "deleted" (.listOf .text) [] <*>
      optional "renamed" (.listOf .text) []

def ChangedFiles.toJson (files : ChangedFiles) : Json :=
  .object [("modified", .strings files.modified), ("added", .strings files.added),
    ("deleted", .strings files.deleted), ("renamed", .strings files.renamed)]

def Execution.decode : Decoder Execution :=
  Record.decode "ExecutionResult" <|
    Execution.mk <$> required "diff" .text <*> optional "changedFiles" ChangedFiles.decode {} <*>
      optional "outputs" .members [] <*> optional "path" .text ""

end Changesets
