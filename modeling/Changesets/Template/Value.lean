import Changesets.Decimal.Shortest
import Changesets.Json
import Changesets.Text.Quoted

/-!
The values of template expressions. Beside those of JSON there are two undefined ones, which most
operations refuse or take for nothing, and the state of a loop. A map keeps the order of its members.
-/
namespace Changesets.Template

inductive Value
  /-- What a missing name, member or index gives. -/
  | undefined
  /-- What `a if c` gives where `c` does not hold: undefined too, but taken for nothing where the
  other one is refused. -/
  | absent
  | none
  | bool (b : Bool)
  | int (i : Int)
  /-- A literal of more than 64 bits, which has no sign and at most 128 of them. -/
  | wide (n : Nat)
  | float (x : Float)
  | string (s : String)
  | list (items : List Value)
  /-- The items that an operation gives; unlike a list, messages call it an iterator. -/
  | iterator (items : List Value)
  | map (members : List (String × Value))
  /-- What the name `loop` stands for at an item, with the items next to that. -/
  | loop (index length : Nat) (previous next : Value)

namespace Value

mutual

def ofJson : Json → Value
  | .null => none
  | .bool b => bool b
  | .int i => int i
  | .float x => float x
  | .string s => string s
  | .array items => list (ofItems items)
  | .object members => map (ofMembers members)

def ofItems : List Json → List Value
  | [] => []
  | item :: rest => ofJson item :: ofItems rest

def ofMembers : List (String × Json) → List (String × Value)
  | [] => []
  | (key, value) :: rest => (key, ofJson value) :: ofMembers rest

end

/-- The kinds that messages speak of. -/
inductive Kind
  | undefined
  | none
  | bool
  | number
  | string
  | sequence
  | map
  | iterator
  deriving DecidableEq

def Kind.name : Kind → String
  | undefined => "undefined"
  | none => "none"
  | bool => "bool"
  | number => "number"
  | string => "string"
  | sequence => "sequence"
  | map => "map"
  | iterator => "iterator"

def kind : Value → Kind
  | undefined | absent => .undefined
  | none => .none
  | bool _ => .bool
  | int _ | wide _ | float _ => .number
  | string _ => .string
  | list _ => .sequence
  | map _ | loop .. => .map
  | iterator _ => .iterator

/-- In lists and maps the doubles below 0.0001 and those from 10 ^ 16 on have an exponent. -/
def innerForm : Decimal.Form :=
  ⟨-4, 15, false⟩

mutual

/-- A value as it stands in a list or a map: strings are quoted there. -/
def inspect : Value → String
  | undefined | absent => "undefined"
  | none => "None"
  | bool b => if b then "True" else "False"
  | int i => toString i
  | wide n => toString n
  | float x => innerForm.write x
  | string s => Text.quoted s
  | list items | iterator items => "[" ++ inspectItems items ++ "]"
  | map members => "\x7b" ++ inspectMembers members ++ "\x7d"
  | loop index length _ _ => s!"<loop {index}/{length}>"

def inspectItems : List Value → String
  | [] => ""
  | [item] => inspect item
  | item :: next :: rest => inspect item ++ ", " ++ inspectItems (next :: rest)

def inspectMembers : List (String × Value) → String
  | [] => ""
  | [(key, value)] => Text.quoted key ++ ": " ++ inspect value
  | (key, value) :: next :: rest =>
    Text.quoted key ++ ": " ++ inspect value ++ ", " ++ inspectMembers (next :: rest)

end

/-- A value as a template prints it. -/
def display : Value → String
  | undefined | absent => ""
  | string s => s
  | float x => Decimal.Form.positional.write x
  | value => value.inspect

/-- Whether a condition holds that has this value. -/
def isTrue : Value → Bool
  | undefined | absent | none => false
  | bool b => b
  | int i => i ≠ 0
  | float x => x != 0
  | string s => !s.isEmpty
  | list items | iterator items => !items.isEmpty
  | map members => !members.isEmpty
  | wide _ | loop .. => true

/-- The members of a map or of the state of a loop. -/
def members? : Value → Option (List (String × Value))
  | map members => some members
  | loop index length previous next =>
    some [("index0", int index), ("index", int (index + 1)), ("length", int length),
      ("revindex", int (length - index)), ("revindex0", int (length - index - 1)),
      ("first", bool (index = 0)), ("last", bool (index + 1 = length)), ("depth", int 1),
      ("depth0", int 0), ("previtem", previous), ("nextitem", next)]
  | _ => Option.none

/-- The member of a map. -/
def member (value : Value) (key : String) : Value :=
  (value.members?.bind (·.lookup key)).getD undefined

/-- The whole number that a value is; booleans count as 0 and 1. -/
def whole? : Value → Option Int
  | int i => some i
  | wide n => some n
  | bool b => some (if b then 1 else 0)
  | _ => Option.none

/-- The whole number that a value is as an index or a count, which a double may be too. -/
def toIndex? : Value → Option Int
  | float x => Decimal.toInt? x
  | value => value.whole?

/-- The place in a sequence of this length that an index names; a negative one counts from the
end. -/
def place? (index : Int) (length : Nat) : Option Nat :=
  if 0 ≤ index then some index.toNat
  else if (-index).toNat ≤ length then some (length - (-index).toNat) else Option.none

/-- The item of a list at an index. -/
def itemAt (items : List Value) (index : Value) : Value :=
  ((index.toIndex?.bind (place? · items.length)).bind (items[·]?)).getD undefined

def characters (s : String) : List Value :=
  s.toList.map fun c => string c.toString

/-- The item at an index, which for a map is a key. -/
def item (value index : Value) : Value :=
  match value, index with
  | map _, string key | loop .., string key => value.member key
  | list items, index | iterator items, index => itemAt items index
  | string s, index => itemAt (characters s) index
  | _, _ => undefined

/-- What a value contains: the items of a list, the keys of a map. -/
def contents? : Value → Option (List Value)
  | list items | iterator items => some items
  | value => value.members?.map fun members => members.map fun (key, _) => string key

/-- The values that a loop runs over, which for a string are its characters. -/
def items? : Value → Option (List Value)
  | string s => some (characters s)
  | value => value.contents?

/-! ## Numbers of two forms -/

/-- Two values as operands of one operation on numbers or texts. -/
inductive Operands
  | ints (a b : Int)
  | floats (a b : Float)
  | texts (a b : String)

/-- The operands of an operation, with a conversion for a whole number beside a double. Whole numbers
have 128 bits with a sign: two wide ones are wrapped to that, and beside another number one that has
more is no operand. -/
def operandsWith (toFloat? : Value → Option Float) (a b : Value) : Option Operands :=
  match a, b with
  | string s, string t => some (.texts s t)
  | float x, float y => some (.floats x y)
  | float x, _ => (toFloat? b).map (.floats x)
  | _, float y => (toFloat? a).map (.floats · y)
  | wide m, wide n => some (.ints (Int.bmod m (Nat.pow 2 128)) (Int.bmod n (Nat.pow 2 128)))
  | _, _ => do
    let i ← a.whole?
    let j ← b.whole?
    if i < Int.pow 2 127 ∧ j < Int.pow 2 127 then some (.ints i j) else Option.none

/-- The operands of an operation that rounds whole numbers to doubles. -/
def operands? : Value → Value → Option Operands :=
  operandsWith fun value => value.whole?.map Float.ofInt

/-- A whole number as a double, where that loses nothing. The largest number of a width passes for
the power of two after it. -/
def exactFloat? (value : Value) : Option Float := do
  let i ← value.whole?
  let x := Float.ofInt i
  let largest : List Int := match value with
    | wide _ => [Int.pow 2 128 - 1]
    | _ => [Int.pow 2 64 - 1, Int.pow 2 127 - 1]
  if Decimal.compareIntFloat i x = .eq ∨ i ∈ largest then some x else Option.none

/-- The operands of a comparison, which never rounds. -/
def comparands? : Value → Value → Option Operands :=
  operandsWith exactFloat?

mutual

/-- Whether two values are equal; numbers of both forms and booleans are compared by their worth. -/
def same : Value → Value → Bool
  | undefined, undefined | undefined, absent | absent, undefined | absent, absent | none, none =>
    true
  | list xs, list ys | list xs, iterator ys | iterator xs, list ys | iterator xs, iterator ys =>
    sameItems xs ys
  | map ms, map ns => ms.length == ns.length && sameMembers ms ns
  | loop i m _ _, loop j n _ _ => i == j && m == n
  | a, b =>
    match comparands? a b with
    | some (.ints i j) => i == j
    | some (.floats x y) => x == y
    | some (.texts s t) => s == t
    | Option.none => false

def sameItems : List Value → List Value → Bool
  | [], [] => true
  | x :: xs, y :: ys => same x y && sameItems xs ys
  | _, _ => false

/-- Whether every member of the first map has an equal one in the second. -/
def sameMembers : List (String × Value) → List (String × Value) → Bool
  | [], _ => true
  | (key, value) :: rest, others =>
    (match others.lookup key with
      | some other => same value other
      | Option.none => false) && sameMembers rest others

end

/-- Values of different kinds are in the order of their kinds. -/
def Kind.rank : Kind → Nat
  | undefined => 0
  | none => 1
  | bool => 2
  | number => 3
  | string => 4
  | sequence => 5
  | map => 6
  | iterator => 7

/-- The order of two values of one kind that contain no others. -/
def compareSimple (a b : Value) : Ordering :=
  match comparands? a b with
  | some (.ints i j) => Ord.compare i j
  | some (.floats x y) => Decimal.compareFloats x y
  | some (.texts s t) => Ord.compare s t
  | Option.none =>
    match a, b with
    | float x, b => b.whole?.elim .eq fun j => (Decimal.compareIntFloat j x).swap
    | a, float y => a.whole?.elim .eq fun i => Decimal.compareIntFloat i y
    | a, b => Ord.compare a.whole? b.whole?

mutual

def compare : Value → Value → Ordering
  | list xs, list ys | iterator xs, iterator ys => compareItems xs ys
  | map ms, map ns => compareMembers ms ns
  | a, b => (Ord.compare a.kind.rank b.kind.rank).then (compareSimple a b)

def compareItems : List Value → List Value → Ordering
  | [], [] => .eq
  | [], _ :: _ => .lt
  | _ :: _, [] => .gt
  | x :: xs, y :: ys => (compare x y).then (compareItems xs ys)

def compareMembers : List (String × Value) → List (String × Value) → Ordering
  | [], [] => .eq
  | [], _ :: _ => .lt
  | _ :: _, [] => .gt
  | (j, x) :: xs, (k, y) :: ys =>
    ((Ord.compare j k).then (compare x y)).then (compareMembers xs ys)

end

end Changesets.Template.Value
