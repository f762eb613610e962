import Changesets.Glob
import Changesets.Publication.Value
import Changesets.Text.Search

/-!
Publication policies: rules from a key to a value, of which the last one that matches decides. A key
is a glob for repository names, and may go on with `@` and a branch.
-/
namespace Changesets.Publication

inductive Error
  /-- A text that names no value. -/
  | invalidValue (text : String)
  /-- A list entry with no key or with several. -/
  | invalidRuleShape (keys : Nat)
  | invalidPattern (key : String) (reason : Glob.Error)
  deriving DecidableEq

def Error.message : Error → String
  | invalidValue text =>
    s!"invalid published value '{text}', expected true, false or \"draft\""
  | invalidRuleShape keys =>
    s!"published override must map exactly one pattern to a value, found {keys}"
  | invalidPattern key reason =>
    s!"invalid repository pattern '{key}' in published override: {reason.message}"

/-- The only text that names a value is `draft`. -/
def Value.ofText (text : String) : Except Error Value :=
  if text = "draft" then .ok .draft else .error (.invalidValue text)

structure Rule where
  pattern : List Glob.Token
  branch : Option String
  value : Value
  deriving DecidableEq

def Rule.appliesTo (rule : Rule) (repository branch : String) : Bool :=
  Glob.matchesText rule.pattern repository.toList && rule.branch.all (· == branch)

/-- The glob of a key and its branch: what stands before the first `@`, and after it unless that is
empty. -/
def splitKey (key : String) : String × Option String :=
  match Text.splitFirst? "@" key with
  | some (pattern, branch) => (pattern, if branch.isEmpty then none else some branch)
  | none => (key, none)

def Rule.ofKey (key : String) (value : Value) : Except Error Rule :=
  let (pattern, branch) := splitKey key
  match Glob.parse pattern with
  | .ok pattern => .ok ⟨pattern, branch, value⟩
  | .error reason => .error (.invalidPattern key reason)

structure Policy where
  rules : List Rule := []
  deriving DecidableEq

namespace Policy

/-- The policy with one more rule, which goes before all others. -/
def override (policy : Policy) (key : String) (value : Value) : Except Error Policy :=
  (Rule.ofKey key value).map fun rule => ⟨policy.rules ++ [rule]⟩

/-- The policy that gives one value to every changeset. -/
def uniform (value : Value) : Except Error Policy :=
  override {} "*" value

/-- The value of the last rule that applies; absent if none does. -/
def valueFor (policy : Policy) (repository branch : String) : Value :=
  match policy.rules.findRev? (·.appliesTo repository branch) with
  | some rule => rule.value
  | none => .absent

end Changesets.Publication.Policy
