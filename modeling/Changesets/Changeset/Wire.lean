import Changesets.Changeset
import Changesets.Publication.Wire

/-!
Changesets in JSON. An absent publication value is left out, never written as `null`.
-/
namespace Changesets

open Json (Decoder Record)
open Json.Record (required optional)

def Commit.decode : Decoder Commit :=
  Record.decode "GitCommitDescription" <|
    Commit.mk <$> required "message" .text <*> required "authorName" .text <*>
      required "authorEmail" .text <*> required "diff" .text

def Commit.toJson (commit : Commit) : Json :=
  .object [("message", .string commit.message), ("authorName", .string commit.authorName),
    ("authorEmail", .string commit.authorEmail), ("diff", .string commit.diff)]

def Changeset.decode : Decoder Changeset :=
  Record.decode "ChangesetSpec" <|
    Changeset.mk <$> required "baseRepository" .text <*> required "baseRef" .text <*>
      required "baseRev" .text <*> required "headRepository" .text <*> required "headRef" .text <*>
      required "title" .text <*> required "body" .text <*>
      required "commits" (.listOf Commit.decode) <*>
      optional "published" Publication.Value.decode .absent

def Changeset.toJson (changeset : Changeset) : Json :=
  .object <|
    [("baseRepository", .string changeset.baseRepository), ("baseRef", .string changeset.baseRef),
      ("baseRev", .string changeset.baseRev),
      ("headRepository", .string changeset.headRepository), ("headRef", .string changeset.headRef),
      ("title", .string changeset.title), ("body", .string changeset.body),
      ("commits", .array (changeset.commits.map Commit.toJson))] ++
    if changeset.published = .absent then [] else [("published", changeset.published.toJson)]

end Changesets
