import Changesets.Template.Operation
import Changesets.Text.Blank
import Changesets.Text.LetterCase

/-!
The filters and tests of templates. A filter reads the value and then its arguments in their order,
and last it refuses what is left of them. A text that it needs is not undefined; a text that it can
do without may be undefined or none.
-/
namespace Changesets.Template

/-- A text that a filter needs. -/
def neededText : Option Value → Except Cause String
  | none => .error .missingArgument
  | some .undefined => .error .undefinedValue
  | some value => .ok value.display

/-- A text that a filter can do without. -/
def optionalText : Option Value → Option String
  | none | some .undefined | some .absent | some .none => none
  | some value => some value.display

def noMoreArguments : List Value → Except Cause Unit
  | [] => .ok ()
  | _ :: _ => .error .tooManyArguments

/-- The text with every occurrence of `piece` replaced, from left to right; `skip` characters belong
to an occurrence already replaced. -/
def replaceFrom (piece replacement : List Char) : (skip : Nat) → List Char → List Char
  | _, [] => []
  | 0, c :: cs =>
    match Text.afterPrefix? piece (c :: cs) with
    | some _ => replacement ++ replaceFrom piece replacement (piece.length - 1) cs
    | none => c :: replaceFrom piece replacement 0 cs
  | skip + 1, _ :: cs => replaceFrom piece replacement skip cs

/-- The text with `replacement` for every `piece`. The empty piece stands before every character and
at the end. -/
def replaceAll (s piece replacement : String) : String :=
  String.ofList <|
    if piece.isEmpty then
      s.toList.flatMap (fun c => replacement.toList ++ [c]) ++ replacement.toList
    else replaceFrom piece.toList replacement.toList 0 s.toList

/-- The text without characters of `chars` at its ends. -/
def trimChars (chars s : String) : String :=
  let strip (cs : List Char) := cs.dropWhile (· ∈ chars.toList)
  String.ofList (strip (strip s.toList).reverse).reverse

def first (value : Value) : Except Cause Value :=
  match value.items? with
  | some items => .ok (items.head?.getD .undefined)
  | none => .error .noFirstItem

/-- The last item of a text or a list; a map has none. -/
def last : Value → Except Cause Value
  | .string s => .ok ((Value.characters s).getLast?.getD .undefined)
  | .list items | .iterator items => .ok (items.getLast?.getD .undefined)
  | _ => .error .noLastItem

def length (value : Value) : Except Cause Value :=
  match value.items? with
  | some items => .ok (.int items.length)
  | none => .error (.noLength value.kind)

def join (joiner : String) (value : Value) : Except Cause Value :=
  match value with
  | .undefined | .absent | .none => .ok (.string "")
  | value =>
    match value.items? with
    | some items => .ok (.string (joiner.intercalate (items.map (·.display))))
    | none => .error (.notJoinable value.kind)

/-- The members of a map as pairs. -/
def pairs (value : Value) : Except Cause Value :=
  match value.members? with
  | some members => .ok (.iterator (members.map fun (key, value) => .list [.string key, value]))
  | none => .error .noPairs

/-- The value, or the fallback for an undefined value; with `lax` also for a false one. -/
def withDefault (value fallback : Value) (lax : Bool) : Value :=
  if value.kind = .undefined || (lax && !value.isTrue) then fallback else value

abbrev Filter := Value → List Value → Except Cause Value

/-- A filter of texts without arguments. -/
def Filter.ofText (f : String → String) : Filter := fun value arguments => do
  let s ← neededText (some value)
  noMoreArguments arguments
  return .string (f s)

/-- A filter of values without arguments. -/
def Filter.ofValue (f : Value → Except Cause Value) : Filter := fun value arguments => do
  noMoreArguments arguments
  f value

def Filter.trim : Filter := fun value arguments => do
  let s ← neededText (some value)
  noMoreArguments (arguments.drop 1)
  return .string ((optionalText arguments[0]?).elim (Text.trim s) (trimChars · s))

def Filter.replace : Filter := fun value arguments => do
  let s ← neededText (some value)
  let piece ← neededText arguments[0]?
  let replacement ← neededText arguments[1]?
  noMoreArguments (arguments.drop 2)
  return .string (replaceAll s piece replacement)

def Filter.join : Filter := fun value arguments => do
  noMoreArguments (arguments.drop 1)
  Template.join ((optionalText arguments[0]?).getD "") value

def Filter.default : Filter := fun value arguments => do
  let lax ← match arguments[1]? with
    | some lax => holds lax
    | none => pure false
  noMoreArguments (arguments.drop 2)
  return withDefault value (arguments[0]?.getD (.string "")) lax

/-- The filter of this name. -/
def filter? : String → Option Filter
  | "upper" => some (.ofText Text.upper)
  | "lower" => some (.ofText Text.lower)
  | "trim" => some .trim
  | "replace" => some .replace
  | "length" => some (.ofValue length)
  | "first" => some (.ofValue first)
  | "last" => some (.ofValue last)
  | "join" => some .join
  | "items" => some (.ofValue pairs)
  | "default" => some .default
  | _ => none

def applyFilter (name : String) (value : Value) (arguments : List Value) : Except Cause Value :=
  match filter? name with
  | some filter => filter value arguments
  | none => .error (.unknownFilter name)

/-- The test of this name. -/
def test? : String → Option (Value → Bool)
  | "defined" => some fun value => value.kind ≠ .undefined
  | "undefined" => some fun value => value.kind = .undefined
  | _ => none

def applyTest (name : String) (value : Value) (arguments : List Value) : Except Cause Bool :=
  match test? name with
  | some test => do
    noMoreArguments arguments
    return test value
  | none => .error (.unknownTest name)

end Changesets.Template
