import Changesets.Decimal.Binary
import Changesets.Decimal.Word

/-!
The shortest decimal that reads back as a given double. All work is exact: the reals that round to
the double form an interval, ends included when the significand is even, and the coarsest decimal
grid with a point in it gives the answer. Of two such points the nearer one is taken.
-/
namespace Changesets.Decimal

/-- The number `significand * 10 ^ exponent`. -/
structure Scientific where
  significand : Nat
  exponent : Int

/-- The point of the grid `10 ^ exponent` that is nearest to the number among those that round to
it. -/
def Binary.onGrid? (b : Binary) (exponent : Int) : Option Scientific :=
  let quarter := b.exponent - 2
  let scale := Nat.pow 2 quarter.toNat * Nat.pow 10 (-exponent).toNat
  let step := Nat.pow 2 (-quarter).toNat * Nat.pow 10 exponent.toNat
  let value := 4 * b.significand * scale
  let low := (4 * b.significand - if b.atPowerOfTwo then 1 else 2) * scale
  let high := (4 * b.significand + 2) * scale
  let rounds (n : Nat) : Bool :=
    if b.significand % 2 = 0 then low ≤ n * step && n * step ≤ high
    else low < n * step && n * step < high
  let below := value / step
  let above := below + 1
  match rounds below, rounds above with
  | false, false => none
  | true, false => some ⟨below, exponent⟩
  | false, true => some ⟨above, exponent⟩
  | true, true =>
    let down := value - below * step
    let up := above * step - value
    some ⟨if down < up ∨ (down = up ∧ below % 2 = 0) then below else above, exponent⟩

/-- The decimal of the coarsest grid that has a point in the interval of the number. -/
def Binary.shortest (b : Binary) : Scientific :=
  ((List.range 640).findSome? fun i : Nat => b.onGrid? (309 - (i : Int))).getD ⟨b.significand, 0⟩

/-- The double that is nearest to the number, which is infinite where the number is beyond all
doubles. -/
def Scientific.toFloat (x : Scientific) : Float :=
  let order := x.exponent + (digits x.significand).length
  if x.significand = 0 ∨ order < -400 then 0.0
  else if 400 < order then 1.0 / 0.0
  else Float.ofScientific x.significand (x.exponent < 0) x.exponent.natAbs

/-- The power of ten of the first digit. -/
def Scientific.order (x : Scientific) : Int :=
  x.exponent + (digits x.significand).length - 1

/-- The number in positional notation, with at least one digit on each side of the point. -/
def Scientific.positional (x : Scientific) : List Char :=
  let ds := digits x.significand
  let places := (-x.exponent).toNat
  if 0 ≤ x.exponent then ds ++ List.replicate x.exponent.toNat '0' ++ ['.', '0']
  else if places < ds.length then
    ds.take (ds.length - places) ++ '.' :: ds.drop (ds.length - places)
  else '0' :: '.' :: List.replicate (places - ds.length) '0' ++ ds

/-- The number with one digit before the point and an exponent. -/
def Scientific.exponential (plus : Bool) (x : Scientific) : List Char :=
  let ds := digits x.significand
  let exponent := x.order
  ds.take 1 ++ (if ds.length = 1 then [] else '.' :: ds.drop 1) ++ 'e' ::
    (if exponent < 0 then ['-'] else if plus then ['+'] else []) ++ digits exponent.natAbs

/-- How doubles are written: from the order `lowest` to the order `highest` in positional notation
and otherwise with an exponent, which may have a plus sign. -/
structure Form where
  lowest : Int
  highest : Int
  plus : Bool

/-- Positional notation for all doubles. -/
def Form.positional : Form :=
  ⟨-324, 308, false⟩

/-- A double with the fewest digits that read back. -/
def Form.write (form : Form) (x : Float) : String :=
  let unsigned : Binary → List Char := fun b =>
    let s := b.shortest
    if form.lowest ≤ s.order ∧ s.order ≤ form.highest then s.positional
    else s.exponential form.plus
  let signed (cs : List Char) := String.ofList (if isNegative x then '-' :: cs else cs)
  match magnitude x with
  | .notANumber => "NaN"
  | .infinite => signed "inf".toList
  | .zero => signed "0.0".toList
  | .finite b => signed (unsigned b)

end Changesets.Decimal
