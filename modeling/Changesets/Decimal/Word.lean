/-!
Decimal numerals and the numbers that fit in a word of 64 bits. `word?_digits` says that the numeral
written for a word reads back as that word.
-/
namespace Changesets.Decimal

/-- The numeral of a number, without leading zeros. -/
def digits (n : Nat) : List Char :=
  Nat.toDigits 10 n

/-- The number of a nonempty run of ASCII digits; leading zeros are allowed. -/
def ofDigits? (cs : List Char) : Option Nat :=
  if cs.isEmpty || !cs.all Char.isDigit then none else some (Nat.ofDigitChars 10 cs 0)

/-- Reads a word of 64 bits: digits with at most one `+` before them, and no number past the last. -/
def word? (cs : List Char) : Option UInt64 :=
  let unsigned := match cs with
    | '+' :: rest => rest
    | _ => cs
  (ofDigits? unsigned).bind fun n =>
    if h : n < UInt64.size then some (UInt64.ofNatLT n h) else none

theorem ofDigits?_digits (n : Nat) : ofDigits? (digits n) = some n := by
  have all : (digits n).all Char.isDigit = true :=
    List.all_eq_true.2 fun _ h => Nat.isDigit_of_mem_toDigits (by decide) (by decide) h
  have nonempty : (digits n).isEmpty = false := by
    rw [List.isEmpty_eq_false_iff]
    exact Nat.toDigits_ne_nil
  rw [ofDigits?, nonempty, all]
  exact congrArg some (Nat.ofDigitChars_toDigits (by decide) (by decide))

theorem word?_digits (w : UInt64) : word? (digits w.toNat) = some w := by
  have unsigned : (match digits w.toNat with | '+' :: rest => rest | _ => digits w.toNat) =
      digits w.toNat := by
    split
    · next h =>
      have : '+' ∈ digits w.toNat := by simp [h]
      exact absurd (Nat.isDigit_of_mem_toDigits (by decide) (by decide) this) (by decide)
    · rfl
  simp [word?, unsigned, ofDigits?_digits, w.toNat_lt]

end Changesets.Decimal
