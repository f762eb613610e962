import Changesets.Assembly
import Changesets.Proofs.Json.RoundTrip
import Changesets.Proofs.Json.Stated
import Changesets.Proofs.Publication.Overrides

/-!
Tasks and execution results as they are declared, with fields left out. A declaration is written to
JSON with the members that it states, and it is built in code from what it states, one field after
the other. What is read from the JSON is what was built, so that no assembly tells them apart.
-/
namespace Changesets

open Json (Reorders)
open Json.Decoder (recovers_listOf_map_map recovers_nullable refuses_nullable)
open Json.Record (required optional reads_optional reads_optional_of_absent recovers_iff
  recovers_text recovers_required recovers_optional recovers_optional_of_absent
  recovers_optional_of_stated recovers_ofStated refuses_required refuses_optional refuses_ofStated)

/-! ## Repositories and batch changes -/

structure Repository.Declaration where
  id : String
  name : String
  baseRef : String
  baseRev : String
  fileMatches : Option (List String) := none

def Repository.Declaration.toJson (declaration : Repository.Declaration) : Json :=
  .ofStated
    [("id", some (.string declaration.id)), ("name", some (.string declaration.name)),
      ("baseRef", some (.string declaration.baseRef)),
      ("baseRev", some (.string declaration.baseRev)),
      ("fileMatches", declaration.fileMatches.map .strings)]

def Repository.Declaration.build (declaration : Repository.Declaration) : Repository :=
  let repository : Repository :=
    { id := declaration.id, name := declaration.name, baseRef := declaration.baseRef
      baseRev := declaration.baseRev }
  declaration.fileMatches.elim repository repository.withFileMatches

theorem Repository.Declaration.recovers_toJson (declaration : Repository.Declaration) :
    Repository.decode.Recovers declaration.toJson declaration.build := by
  have hbuild : declaration.build =
      ⟨declaration.id, declaration.name, declaration.baseRef, declaration.baseRev,
        declaration.fileMatches.elim [] fun paths => paths⟩ := by
    rw [build]
    cases declaration.fileMatches <;> rfl
  rw [hbuild]
  refine recovers_ofStated (by simp) (fun ms hlookup => ?_) _
  exact (recovers_text (hlookup "id")).map Repository.mk
    |>.seq (recovers_text (hlookup "name"))
    |>.seq (recovers_text (hlookup "baseRef"))
    |>.seq (recovers_text (hlookup "baseRev"))
    |>.seq (recovers_optional_of_stated _ [] (hlookup "fileMatches") Json.recovers_strings)

structure BatchChange.Declaration where
  name : String
  description : Option String := none

def BatchChange.Declaration.toJson (declaration : BatchChange.Declaration) : Json :=
  .ofStated
    [("name", some (.string declaration.name)), ("description", declaration.description.map .string)]

def BatchChange.Declaration.build (declaration : BatchChange.Declaration) : BatchChange :=
  let batchChange : BatchChange := { name := declaration.name }
  declaration.description.elim batchChange fun description => { batchChange with description }

theorem BatchChange.Declaration.recovers_toJson (declaration : BatchChange.Declaration) :
    BatchChange.decode.Recovers declaration.toJson declaration.build := by
  have hbuild : declaration.build =
      ⟨declaration.name, declaration.description.elim "" fun description => description⟩ := by
    rw [build]
    cases declaration.description <;> rfl
  rw [hbuild]
  refine recovers_ofStated (by simp) (fun ms hlookup => ?_) _
  exact (recovers_text (hlookup "name")).map BatchChange.mk
    |>.seq (recovers_optional_of_stated _ "" (hlookup "description") Json.Decoder.recovers_text)

/-! ## Templates -/

/-- A changeset template with the message and the author of its commit, and the overrides of its
publication policy. -/
structure ChangesetTemplate.Declaration where
  title : String
  body : Option String := none
  branch : String
  message : String
  author : Option Author := none
  overrides : Option (List (String × Publication.Value)) := none
  /-- An override states a value. -/
  overrides_stated : ∀ given ∈ overrides, ∀ entry ∈ given, entry.2 ≠ .absent := by simp

def Author.toJson (author : Author) : Json :=
  .object [("name", .string author.name), ("email", .string author.email)]

theorem Author.recovers_toJson (author : Author) :
    Author.decode.Recovers author.toJson author := by
  refine Json.Record.Recovers.decode ?_ (by simp) _
  exact (recovers_text rfl).map Author.mk |>.seq (recovers_text rfl)

namespace ChangesetTemplate.Declaration

def commitJson (declaration : Declaration) : Json :=
  .ofStated
    [("message", some (.string declaration.message)), ("author", declaration.author.map Author.toJson)]

def members (declaration : Declaration) : List (String × Option Json) :=
  [("title", some (.string declaration.title)), ("body", declaration.body.map .string),
    ("branch", some (.string declaration.branch)), ("commit", some declaration.commitJson),
    ("published", declaration.overrides.map fun given => .array (given.map Publication.ruleJson))]

def toJson (declaration : Declaration) : Json :=
  .ofStated declaration.members

def commit (declaration : Declaration) : CommitTemplate :=
  let commit : CommitTemplate := { message := declaration.message }
  declaration.author.elim commit fun author => commit.withAuthor author.name author.email

/-- The template without its publication policy. -/
def unpublished (declaration : Declaration) : ChangesetTemplate :=
  let template : ChangesetTemplate :=
    { title := declaration.title, branch := declaration.branch, commit := declaration.commit }
  declaration.body.elim template template.withBody

/-- The template, if every override has a glob. -/
def build (declaration : Declaration) : Except Publication.Error ChangesetTemplate :=
  declaration.overrides.elim (.ok declaration.unpublished) fun given =>
    (Publication.Policy.overrides {} given).map declaration.unpublished.withPublished

theorem recovers_commitJson (declaration : Declaration) :
    CommitTemplate.decode.Recovers declaration.commitJson declaration.commit := by
  have hbuild : declaration.commit = ⟨declaration.message, declaration.author.elim none some⟩ := by
    rw [commit]
    cases declaration.author <;> rfl
  rw [hbuild]
  refine recovers_ofStated (by simp) (fun ms hlookup => ?_) _
  exact (recovers_text (hlookup "message")).map CommitTemplate.mk
    |>.seq (recovers_optional_of_stated _ none (hlookup "author") fun author =>
      recovers_nullable (by simp [Author.toJson]) author.recovers_toJson)

variable {declaration : Declaration} {ms : List (String × Json)}

/-- The fields before the policy. -/
theorem recovers_unpublished
    (hlookup : ∀ key, ms.lookup key = (declaration.members.lookup key).join) :
    (ChangesetTemplate.mk <$> required "title" .text <*> optional "body" .text "" <*>
      required "branch" .text <*> required "commit" CommitTemplate.decode).Recovers ms
      fun published => { declaration.unpublished with published } := by
  have hbuild : (fun published => { declaration.unpublished with published }) =
      ChangesetTemplate.mk declaration.title (declaration.body.elim "" fun body => body)
        declaration.branch declaration.commit := by
    rw [unpublished]
    cases declaration.body <;> rfl
  rw [hbuild]
  exact (recovers_text (hlookup "title")).map ChangesetTemplate.mk
    |>.seq (recovers_optional_of_stated _ "" (hlookup "body") Json.Decoder.recovers_text)
    |>.seq (recovers_text (hlookup "branch"))
    |>.seq (recovers_required (hlookup "commit") declaration.recovers_commitJson)

theorem recovers_toJson {template : ChangesetTemplate} (h : declaration.build = .ok template) :
    ChangesetTemplate.decode.Recovers declaration.toJson template := by
  refine recovers_ofStated (by simp [members]) (fun ms hlookup => ?_) _
  have hfields := recovers_unpublished hlookup
  have hpublished : ms.lookup "published" =
      declaration.overrides.map fun given => .array (given.map Publication.ruleJson) :=
    hlookup "published"
  rw [build] at h
  cases hoverrides : declaration.overrides with
  | none =>
      rw [hoverrides] at h hpublished
      have htemplate : template = { declaration.unpublished with published := none } := by
        cases h
        rw [unpublished]
        cases declaration.body <;> rfl
      exact htemplate ▸ hfields.seq (recovers_optional_of_absent hpublished)
  | some given =>
      rw [hoverrides] at h hpublished
      obtain ⟨policy, hpolicy, rfl⟩ := map_eq_ok.1 h
      have hread :=
        Publication.Policy.recovers_rules (declaration.overrides_stated given hoverrides) hpolicy
      exact hfields.seq (recovers_optional none hpublished (recovers_nullable (by simp) hread))

theorem build_eq_error_iff {e : Publication.Error} :
    declaration.build = .error e ↔
      ∃ given, declaration.overrides = some given ∧
        Publication.Policy.overrides {} given = .error e := by
  rw [build]
  cases declaration.overrides <;> simp [map_eq_error_iff]

theorem refuses_toJson {e : Publication.Error} (h : declaration.build = .error e) :
    ChangesetTemplate.decode.Refuses declaration.toJson (.publication e) := by
  obtain ⟨given, hoverrides, he⟩ := build_eq_error_iff.1 h
  refine refuses_ofStated (by simp [members]) (by decide) (fun ms hlookup => ?_) _
  have hpublished : ms.lookup "published" =
      declaration.overrides.map fun given => .array (given.map Publication.ruleJson) :=
    hlookup "published"
  rw [hoverrides] at hpublished
  have hread :=
    Publication.Policy.refuses_rules (declaration.overrides_stated given hoverrides) he
  exact (recovers_unpublished hlookup).seq_refuses
    (refuses_optional hpublished (refuses_nullable (by simp) hread))

end ChangesetTemplate.Declaration

/-! ## Tasks -/

structure Group.Declaration where
  repository : Option String := none
  directory : String
  branch : String

def Group.Declaration.toJson (declaration : Group.Declaration) : Json :=
  .ofStated
    [("repository", declaration.repository.map .string),
      ("directory", some (.string declaration.directory)),
      ("branch", some (.string declaration.branch))]

def Group.Declaration.build (declaration : Group.Declaration) : Group :=
  let group : Group := { directory := declaration.directory, branch := declaration.branch }
  declaration.repository.elim group group.forRepository

theorem Group.Declaration.recovers_toJson (declaration : Group.Declaration) :
    Group.decode.Recovers declaration.toJson declaration.build := by
  have hbuild : declaration.build =
      ⟨declaration.repository.elim "" fun repository => repository, declaration.directory,
        declaration.branch⟩ := by
    rw [build]
    cases declaration.repository <;> rfl
  rw [hbuild]
  refine recovers_ofStated (by simp) (fun ms hlookup => ?_) _
  have hrepository :=
    recovers_optional_of_stated _ "" (hlookup "repository") Json.Decoder.recovers_text
  exact hrepository.map Group.mk
    |>.seq (recovers_text (hlookup "directory"))
    |>.seq (recovers_text (hlookup "branch"))

/-- The groups of a `transformChanges` value, which may leave out their list. -/
structure Group.Declarations where
  groups : Option (List Group.Declaration) := none

def Group.Declarations.toJson (declarations : Group.Declarations) : Json :=
  .ofStated
    [("group", declarations.groups.map fun groups => .array (groups.map Group.Declaration.toJson))]

def Group.Declarations.build (declarations : Group.Declarations) : List Group :=
  declarations.groups.elim [] fun groups => groups.map Group.Declaration.build

theorem Group.Declarations.recovers_toJson (declarations : Group.Declarations) :
    Group.decodeAll.Recovers declarations.toJson declarations.build := by
  refine recovers_ofStated (by simp) (fun ms hlookup => ?_) _
  exact recovers_optional_of_stated _ [] (hlookup "group")
    (recovers_listOf_map_map Group.Declaration.recovers_toJson)

structure Task.Declaration where
  repository : Repository.Declaration
  batchChange : Option BatchChange.Declaration := none
  template : ChangesetTemplate.Declaration
  transformChanges : Option Group.Declarations := none

namespace Task.Declaration

def members (declaration : Declaration) : List (String × Option Json) :=
  [("repository", some declaration.repository.toJson),
    ("batchChange", declaration.batchChange.map BatchChange.Declaration.toJson),
    ("template", some declaration.template.toJson),
    ("transformChanges", declaration.transformChanges.map Group.Declarations.toJson)]

def toJson (declaration : Declaration) : Json :=
  .ofStated declaration.members

/-- The task with a template that is built. -/
def withTemplate (declaration : Declaration) (template : ChangesetTemplate) : Task :=
  let task : Task := { repository := declaration.repository.build, template }
  let task := declaration.batchChange.elim task fun batchChange =>
    { task with batchChange := batchChange.build }
  declaration.transformChanges.elim task fun groups => task.withGroups groups.build

def build (declaration : Declaration) : Except Publication.Error Task :=
  declaration.template.build.map declaration.withTemplate

variable {declaration : Declaration} {ms : List (String × Json)}

theorem withTemplate_eq (template : ChangesetTemplate) :
    declaration.withTemplate template =
      ⟨declaration.repository.build,
        declaration.batchChange.elim { name := "" } BatchChange.Declaration.build, template,
        declaration.transformChanges.elim none fun groups => some groups.build⟩ := by
  rw [withTemplate]
  cases declaration.batchChange <;> cases declaration.transformChanges <;> rfl

/-- The fields before the template. -/
theorem recovers_before
    (hlookup : ∀ key, ms.lookup key = (declaration.members.lookup key).join) :
    (Task.mk <$> required "repository" Repository.decode <*>
      optional "batchChange" BatchChange.decode { name := "" }).Recovers ms
      (Task.mk declaration.repository.build
        (declaration.batchChange.elim { name := "" } BatchChange.Declaration.build)) :=
  (recovers_required (hlookup "repository") declaration.repository.recovers_toJson).map Task.mk
    |>.seq (recovers_optional_of_stated _ _ (hlookup "batchChange")
      BatchChange.Declaration.recovers_toJson)

/-- The field after the template. -/
theorem recovers_after
    (hlookup : ∀ key, ms.lookup key = (declaration.members.lookup key).join) :
    (optional "transformChanges" (.nullable Group.decodeAll) none).Recovers ms
      (declaration.transformChanges.elim none fun groups => some groups.build) :=
  recovers_optional_of_stated _ none (hlookup "transformChanges") fun groups =>
    recovers_nullable (by simp [Group.Declarations.toJson, Json.ofStated]) groups.recovers_toJson

theorem recovers_toJson {task : Task} (h : declaration.build = .ok task) :
    Task.decode.Recovers declaration.toJson task := by
  obtain ⟨template, htemplate, rfl⟩ := map_eq_ok.1 h
  rw [withTemplate_eq]
  refine recovers_ofStated (by simp [members]) (fun ms hlookup => ?_) _
  exact (recovers_before hlookup).seq
      (recovers_required (hlookup "template") (declaration.template.recovers_toJson htemplate))
    |>.seq (recovers_after hlookup)

theorem refuses_toJson {e : Publication.Error} (h : declaration.build = .error e) :
    Task.decode.Refuses declaration.toJson (.publication e) := by
  have htemplate := map_eq_error_iff.1 h
  refine refuses_ofStated (by simp [members]) (by decide) (fun ms hlookup => ?_) _
  exact (recovers_before hlookup).seq_refuses
      (refuses_required (hlookup "template") (declaration.template.refuses_toJson htemplate))
    |>.seq_recovers (recovers_after hlookup)

theorem decode_of_reorders (declaration : Declaration) {j : Json}
    (hj : Reorders declaration.toJson j) :
    Task.decode j = declaration.build.mapError .publication := by
  cases h : declaration.build with
  | ok task => exact recovers_toJson h j hj
  | error e => exact refuses_toJson h j hj

end Task.Declaration

/-! ## Execution results -/

structure ChangedFiles.Declaration where
  modified : Option (List String) := none
  added : Option (List String) := none
  deleted : Option (List String) := none
  renamed : Option (List String) := none

def ChangedFiles.Declaration.toJson (declaration : ChangedFiles.Declaration) : Json :=
  .ofStated
    [("modified", declaration.modified.map .strings), ("added", declaration.added.map .strings),
      ("deleted", declaration.deleted.map .strings), ("renamed", declaration.renamed.map .strings)]

def ChangedFiles.Declaration.build (declaration : ChangedFiles.Declaration) : ChangedFiles :=
  let files : ChangedFiles := {}
  let files := declaration.modified.elim files fun modified => { files with modified }
  let files := declaration.added.elim files fun added => { files with added }
  let files := declaration.deleted.elim files fun deleted => { files with deleted }
  declaration.renamed.elim files fun renamed => { files with renamed }

theorem ChangedFiles.Declaration.recovers_toJson (declaration : ChangedFiles.Declaration) :
    ChangedFiles.decode.Recovers declaration.toJson declaration.build := by
  have hbuild : declaration.build =
      ⟨declaration.modified.elim [] fun modified => modified,
        declaration.added.elim [] fun added => added,
        declaration.deleted.elim [] fun deleted => deleted,
        declaration.renamed.elim [] fun renamed => renamed⟩ := by
    obtain ⟨modified, added, deleted, renamed⟩ := declaration
    cases modified <;> cases added <;> cases deleted <;> cases renamed <;> rfl
  rw [hbuild]
  refine recovers_ofStated (by simp) (fun ms hlookup => ?_) _
  have hmodified := recovers_optional_of_stated _ [] (hlookup "modified") Json.recovers_strings
  exact hmodified.map ChangedFiles.mk
    |>.seq (recovers_optional_of_stated _ [] (hlookup "added") Json.recovers_strings)
    |>.seq (recovers_optional_of_stated _ [] (hlookup "deleted") Json.recovers_strings)
    |>.seq (recovers_optional_of_stated _ [] (hlookup "renamed") Json.recovers_strings)

structure Execution.Declaration where
  diff : String
  changedFiles : Option ChangedFiles.Declaration := none
  outputs : Option (List (String × Json)) := none
  path : Option String := none
  outputs_distinct : ∀ given ∈ outputs, (given.map Prod.fst).Nodup := by simp
  outputs_ordered : ∀ given ∈ outputs, ∀ output ∈ given, output.2.Ordered := by simp

namespace Execution.Declaration

def members (declaration : Declaration) : List (String × Option Json) :=
  [("diff", some (.string declaration.diff)),
    ("changedFiles", declaration.changedFiles.map ChangedFiles.Declaration.toJson),
    ("outputs", declaration.outputs.map .object), ("path", declaration.path.map .string)]

def toJson (declaration : Declaration) : Json :=
  .ofStated declaration.members

/-- The result with one output after the other set to its value. -/
def build (declaration : Declaration) : Execution :=
  let execution : Execution := { diff := declaration.diff }
  let execution := declaration.changedFiles.elim execution fun files =>
    execution.withChangedFiles files.build
  let execution := (declaration.outputs.getD []).foldl
    (fun execution (key, value) => execution.setOutput key value) execution
  declaration.path.elim execution execution.withPath

theorem foldl_setOutput (execution : Execution) (outputs : List (String × Json)) :
    outputs.foldl (fun execution (key, value) => execution.setOutput key value) execution =
      { execution with
        outputs := outputs.foldl (fun members (key, value) => Json.insertMember key value members)
          execution.outputs } := by
  induction outputs generalizing execution with
  | nil => rfl
  | cons output outputs ih => exact ih (execution.setOutput output.1 output.2)

theorem build_eq (declaration : Declaration) :
    declaration.build =
      ⟨declaration.diff, declaration.changedFiles.elim {} ChangedFiles.Declaration.build,
        Json.setMembers (declaration.outputs.getD []), declaration.path.elim "" fun path => path⟩ := by
  simp only [build, foldl_setOutput]
  cases declaration.changedFiles <;> cases declaration.path <;> rfl

/-- Outputs are read in the order in which they stand, which is that of their keys. -/
theorem reads_outputs {declaration : Declaration} {ms : List (String × Json)}
    (hsame : Json.SameMembers (Json.statedMembers declaration.members) ms)
    (hkeys : (ms.map Prod.fst).Nodup) (hordered : ∀ member ∈ ms, member.2.Ordered) :
    (optional "outputs" .members []).Reads ms (Json.setMembers (declaration.outputs.getD [])) := by
  have hstated : (Json.statedMembers declaration.members).lookup "outputs" =
      declaration.outputs.map .object :=
    Json.lookup_statedMembers (by simp [members]) "outputs"
  cases hgiven : declaration.outputs with
  | none =>
      rw [hgiven] at hstated
      exact reads_optional_of_absent (hsame.lookup_eq_none hstated)
  | some given =>
      rw [hgiven] at hstated
      obtain ⟨value, hvalue, hreorders⟩ := hsame.lookup_eq_some hstated
      have hmem := (Json.lookup_eq_some_iff_mem hkeys).1 hvalue
      obtain rfl := (hordered _ hmem).eq_ofMembers (declaration.outputs_distinct given hgiven)
        (declaration.outputs_ordered given hgiven) hreorders
      exact reads_optional [] hvalue rfl

theorem decode_of_reorders (declaration : Declaration) {j : Json}
    (hj : Reorders declaration.toJson j) (hordered : j.Ordered) :
    Execution.decode j = .ok declaration.build := by
  have hstated : (declaration.members.map Prod.fst).Nodup := by simp [members]
  have hlookup := Json.lookup_statedMembers hstated
  obtain ⟨ms, rfl, hsame, hkeys⟩ := hj.object_inv (Json.nodup_keys_statedMembers hstated)
  have hdiff := recovers_iff.1 (recovers_text (hlookup "diff")) ms hsame
  have hfiles := recovers_iff.1 (recovers_optional_of_stated _ {} (hlookup "changedFiles")
    ChangedFiles.Declaration.recovers_toJson) ms hsame
  have hpath := recovers_iff.1 (recovers_optional_of_stated _ "" (hlookup "path")
    Json.Decoder.recovers_text) ms hsame
  rw [build_eq]
  cases hordered with
  | object _ hvalues =>
      have hread := (hdiff.map Execution.mk).seq hfiles
        |>.seq (reads_outputs hsame hkeys hvalues)
        |>.seq hpath
      exact hread.decode hkeys _

end Execution.Declaration

end Changesets
