import Changesets.Decimal.Shortest
import Changesets.Json
import Changesets.Publication.Policy
import Changesets.Text.Quoted

/-!
Reading typed values from JSON. A record lists the keys of a structure with a reader for each. It is
read from an object, whose unknown members are ignored, or from an array that gives the fields in
order. In an object the first member with a faulty value counts before any missing field.
-/
namespace Changesets.Json

/-- Why a JSON value is none of the wanted type. -/
inductive Fault
  | wrongType (found : Json) (expected : String)
  | missingField (key : String)
  /-- An array that ends before the required field at `index`, of `size` fields in all. -/
  | tooShort (index : Nat) (type : String) (size : Nat)
  | tooLong (length : Nat)
  /-- A value of none of the forms that the type admits. -/
  | noVariant (type : String)
  | publication (e : Publication.Error)

/-- Messages show the doubles below 0.00001 and those from 10 ^ 16 on with an exponent. -/
def faultForm : Decimal.Form :=
  ⟨-5, 15, true⟩

/-- What a value is, in words. -/
def describe : Json → String
  | null => "null"
  | bool b => if b then "boolean `true`" else "boolean `false`"
  | int i => s!"integer `{i}`"
  | float x => "floating point `" ++ faultForm.write x ++ "`"
  | string s => "string " ++ Text.quoted s
  | array _ => "sequence"
  | object _ => "map"

def Fault.message : Fault → String
  | wrongType found expected => s!"invalid type: {found.describe}, expected {expected}"
  | missingField key => s!"missing field `{key}`"
  | tooShort index type size =>
    s!"invalid length {index}, expected struct {type} with {size} " ++
      if size = 1 then "element" else "elements"
  | tooLong length => s!"invalid length {length}, expected fewer elements in array"
  | noVariant type => s!"data did not match any variant of untagged enum {type}"
  | publication e => e.message

abbrev Decoder (α : Type) := Json → Except Fault α

namespace Decoder

def text : Decoder String
  | string s => .ok s
  | j => .error (.wrongType j "a string")

def listOf {α : Type} (item : Decoder α) : Decoder (List α)
  | array items => items.mapM item
  | j => .error (.wrongType j "a sequence")

def members : Decoder (List (String × Json))
  | object members => .ok members
  | j => .error (.wrongType j "a map")

/-- A value that may be `null`. -/
def nullable {α : Type} (value : Decoder α) : Decoder (Option α)
  | null => .ok none
  | j => (value j).map some

end Decoder

/-- Where the fields of a structure are read from. -/
inductive Source
  | named (members : List (String × Json))
  | positional (items : List Json)

/-- The value for a field, by its key or by its place. -/
def Source.get? : Source → Nat → String → Option Json
  | named members, _, key => members.lookup key
  | positional items, index, _ => items[index]?

/-- A reader for some fields of a structure. `checks` has their keys in order, each with a test of
its value; `read` takes the name and the size of the structure and the place of the first field. -/
structure Record (α : Type) where
  checks : List (String × (Json → Except Fault Unit))
  read : String → Nat → Nat → Source → Except Fault α

namespace Record

def required {α : Type} (key : String) (value : Decoder α) : Record α where
  checks := [(key, fun j => (value j).map fun _ => ())]
  read type size index source :=
    match source.get? index key, source with
    | some j, _ => value j
    | none, .named _ => .error (.missingField key)
    | none, .positional _ => .error (.tooShort index type size)

/-- A field with a default for where it is left out. -/
def optional {α : Type} (key : String) (value : Decoder α) (default : α) : Record α where
  checks := [(key, fun j => (value j).map fun _ => ())]
  read _ _ index source :=
    match source.get? index key with
    | some j => value j
    | none => .ok default

/-- The fields of both records in turn. -/
def app {α β : Type} (f : Record (α → β)) (x : Record α) : Record β where
  checks := f.checks ++ x.checks
  read type size index source := do
    let g ← f.read type size index source
    let a ← x.read type size (index + f.checks.length) source
    return g a

instance : Functor Record where
  map f x := { x with read := fun type size index source =>
    (x.read type size index source).map f }

instance : Seq Record where
  seq f x := app f (x ())

/-- Tests the members of an object in their order. -/
def checkMembers (checks : List (String × (Json → Except Fault Unit))) :
    List (String × Json) → Except Fault Unit
  | [] => .ok ()
  | (key, value) :: rest =>
    match checks.lookup key with
    | some check => do check value; checkMembers checks rest
    | none => checkMembers checks rest

/-- Reads a structure of this name. -/
def decode {α : Type} (type : String) (record : Record α) : Decoder α
  | object members => do
    checkMembers record.checks members
    record.read type record.checks.length 0 (.named members)
  | array items => do
    let value ← record.read type record.checks.length 0 (.positional items)
    if record.checks.length < items.length then .error (.tooLong items.length) else .ok value
  | j => .error (.wrongType j s!"struct {type}")

end Changesets.Json.Record
