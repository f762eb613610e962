import Changesets.Changeset
import Changesets.Grouping.Partition
import Changesets.Renderer
import Changesets.Service.Features

/-!
Assembling the changesets of a task. The templates are rendered first, each once and up to the first
failure, and the calls are kept beside the outcome; then the groups are checked and the diff is
split, and every branch gets one changeset with one commit.
-/
namespace Changesets

open Template (Context)

structure RenderCall where
  field : String
  template : String
  deriving DecidableEq

inductive AssemblyError
  | render (e : RenderError)
  | conflict (e : Group.Conflict)
  | partition (e : PartitionError)
  /-- The template has no policy and the service cannot do without a value. -/
  | publishedRequired
  deriving DecidableEq

def AssemblyError.message : AssemblyError → String
  | render e => e.message
  | conflict e => e.message
  | partition e => "grouping diffs failed: " ++ e.message
  | publishedRequired =>
    "the batch-changes service requires the changeset template to set \"published\"; " ++
      "set it explicitly or upgrade the service to 3.30.0 or later"

/-- Whether the batch change itself is at fault, and not its templates or its diff. -/
def AssemblyError.isValidation : AssemblyError → Bool
  | conflict _ | publishedRequired => true
  | render _ | partition _ => false

/-- The author of commits whose template names none. -/
def Author.standard : Author :=
  ⟨"Sourcegraph", "batch-changes@sourcegraph.com"⟩

structure Assembler where
  renderer : Renderer
  features : Service.Features
  authorDefaults : Author := Author.standard

/-- The texts that all changesets of a task share, and the branch of its template. -/
structure Rendered where
  title : String
  body : String
  message : String
  branch : String
  author : Author
  deriving DecidableEq

/-- A computation that ends at the first failed rendering and keeps the calls so far. -/
abbrev Rendering := ExceptT RenderError (StateM (List RenderCall))

namespace Assembler

def renderField (assembler : Assembler) (context : Context) (field template : String) :
    Rendering String :=
  ExceptT.mk fun calls =>
    (assembler.renderer field template context, calls ++ [⟨field, template⟩])

/-- The author of a commit template, or the one that the service stands for. -/
def renderAuthor (assembler : Assembler) (context : Context) (author : Option Author) :
    Rendering Author :=
  match author with
  | some author => do
    let name ← assembler.renderField context "authorName" author.name
    let email ← assembler.renderField context "authorEmail" author.email
    return ⟨name, email⟩
  | none =>
    return if assembler.features.includeAutoAuthorDetails then assembler.authorDefaults else ⟨"", ""⟩

def renderTemplate (assembler : Assembler) (context : Context) (template : ChangesetTemplate) :
    Rendering Rendered := do
  let author ← assembler.renderAuthor context template.commit.author
  let title ← assembler.renderField context "title" template.title
  let body ← assembler.renderField context "body" template.body
  let message ← assembler.renderField context "message" template.commit.message
  let branch ← assembler.renderField context "branch" template.branch
  return { title, body, message, branch, author }

/-- The diffs of the branches. Without groups the whole diff goes to the branch as it is. The groups
are checked against the branch template and not against the branch that it renders to. -/
def branchDiffs (task : Task) (execution : Execution) (branch : String) :
    Except AssemblyError BranchDiffs :=
  match task.applicableGroups with
  | [] => .ok (.single branch execution.diff)
  | groups =>
    match Group.conflict? task.repository.name task.template.branch groups with
    | some e => .error (.conflict e)
    | none => (BranchDiffs.partition groups branch execution.diff).mapError .partition

/-- The publication value of the changeset on a branch. A service that needs a value gets `false`
where no rule of the policy applies. -/
def published (assembler : Assembler) (task : Task) (branch : String) :
    Except AssemblyError Publication.Value :=
  match task.template.published with
  | none =>
    if assembler.features.allowOptionalPublished then .ok .absent else .error .publishedRequired
  | some policy =>
    match policy.valueFor task.repository.name branch with
    | .absent =>
      .ok (if assembler.features.allowOptionalPublished then .absent else .explicit false)
    | value => .ok value

/-- The changeset of one branch. -/
def changeset (assembler : Assembler) (task : Task) (rendered : Rendered) (entry : BranchDiff) :
    Except AssemblyError Changeset :=
  (assembler.published task entry.branch).map fun published =>
    { baseRepository := task.repository.id
      baseRef := task.repository.baseRef
      baseRev := task.repository.baseRev
      headRepository := task.repository.id
      headRef := refOfBranch entry.branch
      title := rendered.title
      body := rendered.body
      commits :=
        [{ message := rendered.message
           authorName := rendered.author.name
           authorEmail := rendered.author.email
           diff := entry.diff }]
      published }

/-- The changesets of a task once its templates are rendered. -/
def changesets (assembler : Assembler) (task : Task) (execution : Execution) (rendered : Rendered) :
    Except AssemblyError (List Changeset) := do
  let diffs ← branchDiffs task execution rendered.branch
  diffs.entries.mapM (assembler.changeset task rendered)

/-- The outcome of an assembly and the renderings that it asked for, in order. -/
def run (assembler : Assembler) (task : Task) (execution : Execution) :
    Except AssemblyError (List Changeset) × List RenderCall :=
  let (rendered, calls) :=
    assembler.renderTemplate (Context.ofTask task execution) task.template |>.run.run []
  (rendered.mapError .render >>= assembler.changesets task execution, calls)

def assemble (assembler : Assembler) (task : Task) (execution : Execution) :
    Except AssemblyError (List Changeset) :=
  (assembler.run task execution).1

def calls (assembler : Assembler) (task : Task) (execution : Execution) : List RenderCall :=
  (assembler.run task execution).2

end Changesets.Assembler
