import Changesets.Decimal.Word
import Changesets.Text.Blank

/-!
Dates of the Gregorian calendar, extended to all years, as `year-month-day` writes them. White space
may stand before each number. A year without a sign has at most four digits.
-/
namespace Changesets.Service

structure CalendarDate where
  year : Int
  month : Nat
  day : Nat
  deriving DecidableEq

namespace CalendarDate

def isLeapYear (year : Int) : Bool :=
  year % 4 = 0 && (year % 100 ≠ 0 || year % 400 = 0)

def daysInMonth (year : Int) (month : Nat) : Nat :=
  if month = 2 then (if isLeapYear year then 29 else 28)
  else if month = 4 || month = 6 || month = 9 || month = 11 then 30
  else 31

/-- Whether the date is one of the calendar and within the years that are supported. -/
def Valid (date : CalendarDate) : Prop :=
  (-262143 ≤ date.year ∧ date.year ≤ 262142) ∧ (1 ≤ date.month ∧ date.month ≤ 12) ∧
    1 ≤ date.day ∧ date.day ≤ daysInMonth date.year date.month

instance (date : CalendarDate) : Decidable date.Valid :=
  inferInstanceAs (Decidable (_ ∧ _))

/-- Whether `a` is `b` or a later date. -/
def notBefore (a b : CalendarDate) : Bool :=
  b.year < a.year || (b.year = a.year &&
    (b.month < a.month || (b.month = a.month && b.day ≤ a.day)))

/-- Takes a number of at most `width` digits. -/
def takeNumber? (width : Nat) (cs : List Char) : Option (Nat × List Char) :=
  let ds := (cs.take width).takeWhile Char.isDigit
  (Decimal.ofDigits? ds).map fun n => (n, cs.drop ds.length)

/-- Takes a year; after a sign it has any number of digits. -/
def takeYear? (cs : List Char) : Option (Int × List Char) :=
  match cs with
  | '-' :: rest => (takeNumber? rest.length rest).map fun (n, left) => (-(n : Int), left)
  | '+' :: rest => (takeNumber? rest.length rest).map fun (n, left) => ((n : Int), left)
  | _ => (takeNumber? 4 cs).map fun (n, left) => ((n : Int), left)

/-- Takes a hyphen and a number of at most two digits. -/
def takeField? (cs : List Char) : Option (Nat × List Char) :=
  match cs with
  | '-' :: rest => takeNumber? 2 (Text.trimLeft rest)
  | _ => none

/-- The date that the text is. -/
def parse? (cs : List Char) : Option CalendarDate := do
  let (year, cs) ← takeYear? (Text.trimLeft cs)
  let (month, cs) ← takeField? cs
  let (day, cs) ← takeField? cs
  let date : CalendarDate := ⟨year, month, day⟩
  if cs.isEmpty ∧ date.Valid then some date else none

end Changesets.Service.CalendarDate
