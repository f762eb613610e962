/-!
Doubles as exact numbers. A finite double is a whole number times a power of two, so that it can be
compared with a whole number without rounding either.
-/
namespace Changesets.Decimal

/-- The positive number `significand * 2 ^ exponent`. `atPowerOfTwo` says that its lower neighbour
is only half as far away as its upper one. -/
structure Binary where
  significand : Nat
  exponent : Int
  atPowerOfTwo : Bool

/-- A positive finite double by its exponent field and fraction field. -/
def Binary.ofFields (exponentField fraction : Nat) : Binary :=
  if exponentField = 0 then ⟨fraction, -1074, false⟩
  else ⟨fraction + Nat.pow 2 52, (exponentField : Int) - 1075, fraction = 0 && exponentField ≠ 1⟩

/-- What a double is, apart from its sign. -/
inductive Magnitude
  | notANumber
  | infinite
  | zero
  | finite (b : Binary)

def magnitude (x : Float) : Magnitude :=
  let bits := x.toBits.toNat
  let exponentField := bits / Nat.pow 2 52 % Nat.pow 2 11
  let fraction := bits % Nat.pow 2 52
  if exponentField = 2047 then (if fraction = 0 then .infinite else .notANumber)
  else if exponentField = 0 ∧ fraction = 0 then .zero
  else .finite (.ofFields exponentField fraction)

def isNegative (x : Float) : Bool :=
  x.toBits.toNat / Nat.pow 2 63 = 1

/-- The order of doubles by their bits: the negative zero is before the positive one, and what is
not a number is before all others. -/
def compareFloats (x y : Float) : Ordering :=
  compare (rank x) (rank y)
where
  rank (x : Float) : Int :=
    let bits := x.toBits.toNat
    if x.isNaN then -Int.pow 2 64
    else if bits < Nat.pow 2 63 then bits
    else Int.pow 2 63 - 1 - (bits : Int)

/-- Compares a whole number with a double exactly. -/
def compareIntFloat (i : Int) (x : Float) : Ordering :=
  match magnitude x with
  | .notANumber => .gt
  | .infinite => if isNegative x then .gt else .lt
  | .zero => compare i 0
  | .finite b =>
    let m : Int := if isNegative x then -b.significand else b.significand
    compare (i * Int.pow 2 (-b.exponent).toNat) (m * Int.pow 2 b.exponent.toNat)

/-- The whole number that a double is, if it is one. -/
def toInt? (x : Float) : Option Int :=
  match magnitude x with
  | .notANumber | .infinite => none
  | .zero => some 0
  | .finite b =>
    let divisor := Nat.pow 2 (-b.exponent).toNat
    if b.significand % divisor = 0 then
      let n : Nat := b.significand / divisor * Nat.pow 2 b.exponent.toNat
      some (if isNegative x then -n else n)
    else none

/-- The remainder of a division that rounds the quotient toward zero, with the sign of `x`. The
remainder of two doubles is a double. -/
def remainder (x y : Float) : Float :=
  match magnitude x, magnitude y with
  | .finite a, .finite b =>
    let exponent := min a.exponent b.exponent
    let scaled (c : Binary) : Nat := c.significand * Nat.pow 2 (c.exponent - exponent).toNat
    let size := (Float.ofNat (scaled a % scaled b)).scaleB exponent
    if isNegative x then -size else size
  | .zero, .finite _ | .zero, .infinite | .finite _, .infinite => x
  | _, _ => 0.0 / 0.0

/-- The quotient that leaves no negative remainder. -/
def floorQuotient (x y : Float) : Float :=
  let q := x / y
  let whole := if q < 0.0 then q.ceil else q.floor
  if remainder x y < 0.0 then (if 0.0 < y then whole - 1.0 else whole + 1.0) else whole

end Changesets.Decimal
