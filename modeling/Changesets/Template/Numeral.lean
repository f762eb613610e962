import Changesets.Decimal.Shortest
import Changesets.Template.Escape
import Changesets.Template.Token

/-!
Numbers in templates: whole numbers in the bases 2, 8, 10 and 16, and decimals with a point or an
exponent. Underscores may stand between the digits.
-/
namespace Changesets.Template

/-- How far the reading of a decimal number has come. -/
inductive NumeralStage
  | whole
  | fraction
  | exponent
  | exponentDigits
  deriving DecidableEq

/-- The stage after a character that goes on with the number. A point does only before a digit. -/
def NumeralStage.next? (stage : NumeralStage) (c : Char) (rest : List Char) :
    Option NumeralStage :=
  if c = '_' then some stage
  else if c.isDigit then some (if stage = exponent then exponentDigits else stage)
  else match stage with
    | whole =>
      if c = '.' then if rest.head?.any Char.isDigit then some fraction else none
      else if c = 'e' || c = 'E' then some exponent
      else none
    | fraction => if c = 'e' || c = 'E' then some exponent else none
    | exponent => if c = '+' || c = '-' then some exponentDigits else none
    | exponentDigits => none

/-- The characters that go on with a decimal number, the stage after them and what follows. -/
def takeDecimal (stage : NumeralStage) : List Char → List Char × NumeralStage × List Char
  | [] => ([], stage, [])
  | c :: cs =>
    match stage.next? c cs with
    | none => ([], stage, c :: cs)
    | some stage =>
      let (taken, last, rest) := takeDecimal stage cs
      (c :: taken, last, rest)

/-- The exponent that its characters write, after the letter. -/
def exponent? : List Char → Option Int
  | '-' :: ds => (Decimal.ofDigits? ds).map fun n => -(n : Int)
  | '+' :: ds | ds => (Decimal.ofDigits? ds).map fun n => (n : Int)

/-- The double that a decimal with a point or an exponent writes. -/
def float? (cs : List Char) : Option Float :=
  let whole := cs.takeWhile Char.isDigit
  let rest := cs.dropWhile Char.isDigit
  let (places, rest) := match rest with
    | '.' :: rest => (rest.takeWhile Char.isDigit, rest.dropWhile Char.isDigit)
    | rest => ([], rest)
  let exponent := match rest with
    | [] => some 0
    | _ :: rest => exponent? rest
  exponent.map fun e =>
    Decimal.Scientific.toFloat ⟨Nat.ofDigitChars 10 (whole ++ places) 0, e - places.length⟩

/-- The whole number that some digits write, of at most 128 bits. -/
def wholeToken (base : Nat) (digits : List Char) : Token :=
  match numeral? base digits with
  | some n => if n < Nat.pow 2 128 then .int n else .fault .integerTooLarge
  | none => .fault .integerTooLarge

/-- The base that a number states, and what follows it. -/
def takeBase? : List Char → Option (Nat × List Char)
  | '0' :: c :: rest =>
    if c = 'b' || c = 'B' then some (2, rest)
    else if c = 'o' || c = 'O' then some (8, rest)
    else if c = 'x' || c = 'X' then some (16, rest)
    else none
  | _ => none

/-- The token of a number written with these characters. -/
def numberToken (taken : List Char) (token : List Char → Token) : Token :=
  if taken.getLast? = some '_' then .fault .underscoreAtEnd else token (taken.filter (· ≠ '_'))

/-- The number at the front, which starts with a digit, and what follows it. -/
def takeNumber (cs : List Char) : Token × List Char :=
  match takeBase? cs with
  | some (base, rest) =>
    let goesOn (c : Char) : Bool := c = '_' || c.isDigit || (base = 16 && (digit? 16 c).isSome)
    (numberToken (rest.takeWhile goesOn) (wholeToken base), rest.dropWhile goesOn)
  | none =>
    let (taken, stage, rest) := takeDecimal .whole cs
    let token (digits : List Char) : Token :=
      if stage = .whole then wholeToken 10 digits
      else (float? digits).elim (.fault .invalidFloat) .float
    (numberToken taken token, rest)

end Changesets.Template
