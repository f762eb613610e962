import Changesets.Template.Failure
import Changesets.Template.Syntax
import Changesets.Text.Search

/-!
The operators of templates as functions on values. Comparisons, the search in a container and the
joining of texts refuse the undefined value; to the others it is a value of no use.
-/
namespace Changesets.Template

/-- A whole number, if it has at most 128 bits. -/
def checkedInt (operator : String) (left right : Value) (i : Int) : Except Cause Value :=
  if -Int.pow 2 127 ≤ i ∧ i < Int.pow 2 127 then .ok (.int i)
  else .error (.outOfRange operator left right)

/-- The number of repetitions that a value names. -/
def repeatCount? (value : Value) : Option Nat :=
  (value.toIndex?.filter fun i => 0 ≤ i && i < Int.pow 2 64).map Int.toNat

def repeatText (s : String) (count : Nat) : String :=
  if s.isEmpty then "" else String.join (List.replicate count s)

def repeatItems (items : List Value) (count : Nat) : List Value :=
  if items.isEmpty then [] else (List.replicate count items).flatten

def unsupported {α : Type} (operator : String) (left right : Value) : Except Cause α :=
  .error (.unsupportedOperands operator left.kind right.kind)

/-- An operation on numbers of either form; the one on whole numbers need not have a result. -/
def arithmetic (operator : String) (onInts : Int → Int → Option Int)
    (onFloats : Float → Float → Float) (left right : Value) : Except Cause Value :=
  match left.operands? right with
  | some (.ints i j) =>
    match onInts i j with
    | some k => checkedInt operator left right k
    | none => .error (.outOfRange operator left right)
  | some (.floats x y) => .ok (.float (onFloats x y))
  | _ => unsupported operator left right

def add (left right : Value) : Except Cause Value :=
  match left, right with
  | .string s, .string t => .ok (.string (s ++ t))
  | .list xs, .list ys | .list xs, .iterator ys | .iterator xs, .list ys
  | .iterator xs, .iterator ys => .ok (.iterator (xs ++ ys))
  | _, _ => arithmetic "+" (fun i j => some (i + j)) (· + ·) left right

def multiply (left right : Value) : Except Cause Value :=
  match left, right with
  | .string s, count | count, .string s =>
    match repeatCount? count with
    | some n => .ok (.string (repeatText s n))
    | none => .error .invalidTextCount
  | .list items, count | .iterator items, count | count, .list items | count, .iterator items =>
    match repeatCount? count with
    | some n => .ok (.iterator (repeatItems items n))
    | none => .error .invalidItemCount
  | _, _ => arithmetic "*" (fun i j => some (i * j)) (· * ·) left right

/-- The quotient as a double. -/
def divide (left right : Value) : Except Cause Value :=
  let toFloat? : Value → Option Float
    | .float x => some x
    | value => value.whole?.map Float.ofInt
  match toFloat? left, toFloat? right with
  | some x, some y => .ok (.float (x / y))
  | _, _ => unsupported "/" left right

/-- The quotient of whole numbers that leaves no negative remainder. -/
def floorDivide : Value → Value → Except Cause Value :=
  arithmetic "//" (fun i j => if j = 0 then none else some (i / j)) Decimal.floorQuotient

/-- The remainder, which for whole numbers is not negative. -/
def remainder : Value → Value → Except Cause Value :=
  arithmetic "%" (fun i j => if j = 0 then none else some (i % j)) Decimal.remainder

/-- The power of a whole number, unless it surely has more than 128 bits. The powers of 0, 1 and -1
depend on the parity of the exponent only. -/
def intPower? (base exponent : Int) : Option Int :=
  if exponent < 0 ∨ Int.pow 2 32 ≤ exponent then none
  else if exponent < 128 then some (Int.pow base exponent.toNat)
  else if base.natAbs ≤ 1 then some (Int.pow base (2 + exponent.toNat % 2))
  else none

def power : Value → Value → Except Cause Value :=
  arithmetic "**" intPower? Float.pow

/-- Whether the container holds the value: as a part of a string, an item of a list or a key. -/
def isIn (value container : Value) : Except Cause Bool :=
  match container with
  | .absent => .ok false
  | .string s => .ok (Text.contains value.display s)
  | container =>
    match container.contents? with
    | some items => .ok (items.any (·.same value))
    | none => .error .noContainment

/-- Whether an operator refuses the undefined value. -/
def Operator.isStrict : Operator → Bool
  | concat | equal | different | less | atMost | greater | atLeast | isIn => true
  | add | subtract | multiply | divide | floorDivide | remainder | power => false

def Value.isRefused : Value → Bool
  | undefined => true
  | _ => false

def Operator.apply (operator : Operator) (left right : Value) : Except Cause Value :=
  if operator.isStrict && (left.isRefused || right.isRefused) then .error .undefinedValue
  else match operator with
    | add => Template.add left right
    | subtract => arithmetic "-" (fun i j => some (i - j)) (· - ·) left right
    | multiply => Template.multiply left right
    | divide => Template.divide left right
    | floorDivide => Template.floorDivide left right
    | remainder => Template.remainder left right
    | power => Template.power left right
    | concat => .ok (.string (left.display ++ right.display))
    | equal => .ok (.bool (left.same right))
    | different => .ok (.bool !(left.same right))
    | less => .ok (.bool (left.compare right == .lt))
    | atMost => .ok (.bool (left.compare right != .gt))
    | greater => .ok (.bool (left.compare right == .gt))
    | atLeast => .ok (.bool (left.compare right != .lt))
    | isIn => (Template.isIn left right).map .bool

/-- The value with the opposite sign. The number 2 ^ 127 has the same text with it. -/
def negate : Value → Except Cause Value
  | .float x => .ok (.float (-x))
  | .int i => if -i < Int.pow 2 127 then .ok (.int (-i)) else .error .overflow
  | .wide n =>
    if n = Nat.pow 2 127 then .ok (.wide n)
    else if n < Nat.pow 2 127 then .ok (.int (-n))
    else .error .invalidOperation
  | _ => .error .invalidOperation

/-- Whether a condition holds; the undefined value is none. -/
def holds : Value → Except Cause Bool
  | .undefined => .error .undefinedValue
  | value => .ok value.isTrue

end Changesets.Template
