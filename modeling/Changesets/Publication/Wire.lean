import Changesets.Json.Decode

/-!
Publication values and policies in JSON. A value is `null`, a boolean or the text `draft`. A policy
is a boolean or a text, for all changesets alike, or a list of objects with one key each; the types
in such a list are looked at before anything else.
-/
namespace Changesets.Publication

def Value.toJson : Value → Json
  | absent => .null
  | explicit published => .bool published
  | draft => .string "draft"

/-- A value as a policy states it: neither `null` nor of another type. -/
inductive Statement
  | bool (published : Bool)
  | text (text : String)
  deriving DecidableEq

def Statement.ofJson? : Json → Option Statement
  | .bool published => some (bool published)
  | .string s => some (text s)
  | _ => none

def Statement.value : Statement → Except Error Value
  | bool published => .ok (.explicit published)
  | text s => Value.ofText s

def Value.decode : Json.Decoder Value
  | .null => .ok .absent
  | j => match Statement.ofJson? j with
    | some statement => statement.value.mapError .publication
    | none => .error (.noVariant "RawPublishedValue")

/-- The statements of one list entry by their keys. -/
def entryOfJson? : Json → Option (List (String × Statement))
  | .object members => members.mapM fun (key, j) => (Statement.ofJson? j).map (key, ·)
  | _ => none

/-- The policy with the rule that a list entry states. -/
def Policy.addEntry (policy : Policy) (entry : List (String × Statement)) : Except Error Policy :=
  match entry with
  | [(key, statement)] => do policy.override key (← statement.value)
  | _ => .error (.invalidRuleShape entry.length)

/-- The policy that a list of entries states, one rule for each. -/
def Policy.ofEntries (entries : List (List (String × Statement))) : Except Error Policy :=
  entries.foldlM addEntry {}

/-- The policy of a JSON value, which is `none` where the value has the wrong type. -/
def Policy.ofJson? (j : Json) : Option (Except Error Policy) :=
  match j with
  | .array items => (items.mapM entryOfJson?).map ofEntries
  | _ => (Statement.ofJson? j).map fun statement => do uniform (← statement.value)

def Policy.decode : Json.Decoder Policy := fun j =>
  match ofJson? j with
  | some policy => policy.mapError .publication
  | none => .error (.noVariant "RawPublishedPolicy")

end Changesets.Publication
