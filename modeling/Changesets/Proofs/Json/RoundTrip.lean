import Changesets.Changeset.Wire
import Changesets.Proofs.Json.Record
import Changesets.Task.Wire

/-!
Values that are written to JSON are read back as they were. Several JSON values may be read as one
value: the order of members, unknown members, fields left out at their defaults and a structure
given as an array make no difference to it. Writing picks one of them, so that a value which was
read once stays the same.
-/
namespace Changesets

open Json (Decoder Reorders)
open Json.Decoder (recovers_listOf_map)
open Json.Record (recovers_text recovers_required recovers_optional recovers_optional_of_omitted)

theorem Publication.Value.recovers_toJson (value : Publication.Value) :
    Publication.Value.decode.Recovers value.toJson value := by
  intro j hj
  cases value with
  | absent | explicit _ | draft =>
      cases hj
      rfl

theorem Json.recovers_strings (texts : List String) :
    (Decoder.listOf .text).Recovers (.strings texts) texts :=
  recovers_listOf_map Decoder.recovers_text texts

theorem Commit.recovers_toJson (commit : Commit) :
    Commit.decode.Recovers commit.toJson commit := by
  refine Json.Record.Recovers.decode ?_ (by simp) _
  exact (recovers_text rfl).map Commit.mk
    |>.seq (recovers_text rfl)
    |>.seq (recovers_text rfl)
    |>.seq (recovers_text rfl)

theorem Changeset.recovers_toJson (changeset : Changeset) :
    Changeset.decode.Recovers changeset.toJson changeset := by
  have commits := recovers_listOf_map Commit.recovers_toJson changeset.commits
  have published := Publication.Value.recovers_toJson changeset.published
  refine Json.Record.Recovers.decode ?_ (by split <;> simp) _
  exact (recovers_text rfl).map Changeset.mk
    |>.seq (recovers_text rfl)
    |>.seq (recovers_text rfl)
    |>.seq (recovers_text rfl)
    |>.seq (recovers_text rfl)
    |>.seq (recovers_text rfl)
    |>.seq (recovers_text rfl)
    |>.seq (recovers_required rfl commits)
    |>.seq (recovers_optional_of_omitted rfl published)

theorem Repository.recovers_toJson (repository : Repository) :
    Repository.decode.Recovers repository.toJson repository := by
  have fileMatches := Json.recovers_strings repository.fileMatches
  refine Json.Record.Recovers.decode ?_ (by simp) _
  exact (recovers_text rfl).map Repository.mk
    |>.seq (recovers_text rfl)
    |>.seq (recovers_text rfl)
    |>.seq (recovers_text rfl)
    |>.seq (recovers_optional [] rfl fileMatches)

theorem BatchChange.recovers_toJson (batchChange : BatchChange) :
    BatchChange.decode.Recovers batchChange.toJson batchChange := by
  refine Json.Record.Recovers.decode ?_ (by simp) _
  exact (recovers_text rfl).map BatchChange.mk
    |>.seq (recovers_optional "" rfl (Decoder.recovers_text batchChange.description))

theorem ChangedFiles.recovers_toJson (files : ChangedFiles) :
    ChangedFiles.decode.Recovers files.toJson files := by
  refine Json.Record.Recovers.decode ?_ (by simp) _
  exact (recovers_optional [] rfl (Json.recovers_strings files.modified)).map ChangedFiles.mk
    |>.seq (recovers_optional [] rfl (Json.recovers_strings files.added))
    |>.seq (recovers_optional [] rfl (Json.recovers_strings files.deleted))
    |>.seq (recovers_optional [] rfl (Json.recovers_strings files.renamed))

/-- What is written is read back, in whatever order the members of its objects come. What was read,
from whatever JSON, is not changed by writing and reading it, nor is the JSON then written. -/
structure RoundTrips {α : Type} (decode : Decoder α) (toJson : α → Json) : Prop where
  decode_toJson : ∀ a, decode (toJson a) = .ok a
  decode_reordered : ∀ a j, Reorders (toJson a) j → decode j = .ok a
  reread : ∀ j a, decode j = .ok a → decode (toJson a) = .ok a
  rewritten : ∀ j a b, decode j = .ok a → decode (toJson a) = .ok b → toJson b = toJson a

theorem RoundTrips.of_recovers {α : Type} {decode : Decoder α} {toJson : α → Json}
    (h : ∀ a, decode.Recovers (toJson a) a) : RoundTrips decode toJson where
  decode_toJson a := h a _ (.refl _)
  decode_reordered a j hj := h a j hj
  reread _ a _ := h a _ (.refl _)
  rewritten _ a b _ hb := by rw [Except.ok.inj ((h a _ (.refl _)).symm.trans hb)]

theorem wireValues_roundTrip :
    RoundTrips Changeset.decode Changeset.toJson ∧
    RoundTrips Commit.decode Commit.toJson ∧
    RoundTrips Repository.decode Repository.toJson ∧
    RoundTrips BatchChange.decode BatchChange.toJson ∧
    RoundTrips ChangedFiles.decode ChangedFiles.toJson ∧
    RoundTrips Publication.Value.decode Publication.Value.toJson :=
  ⟨.of_recovers Changeset.recovers_toJson, .of_recovers Commit.recovers_toJson,
    .of_recovers Repository.recovers_toJson, .of_recovers BatchChange.recovers_toJson,
    .of_recovers ChangedFiles.recovers_toJson, .of_recovers Publication.Value.recovers_toJson⟩

/-- A changeset as the array of its fields, with a `null` and an unknown member. -/
example : Changeset.decode (.array
      [.string "repo", .string "main", .string "rev", .string "repo", .string "refs/heads/topic",
        .string "Hello", .string "", .array [.object
          [("diff", .string ""), ("unknown", .null), ("authorEmail", .string ""),
            ("authorName", .string ""), ("message", .string "Msg")]], .null]) =
    .ok ⟨"repo", "main", "rev", "repo", "refs/heads/topic", "Hello", "",
      [⟨"Msg", "", "", ""⟩], .absent⟩ := by
  rfl

end Changesets
