import Changesets.Decimal.Word
import Mathlib.Data.List.Basic

/-!
Decimal numerals. A numeral that is read may have zeros before it, and for a word also a sign; the
one that is written for a number is its only numeral without leading zeros.
-/
namespace Changesets

/-- A numeral of the number: decimal digits after at most one plus sign. -/
def Decimal.Spells (cs : List Char) (n : Nat) : Prop :=
  ∃ ds, (cs = ds ∨ cs = '+' :: ds) ∧ ds ≠ [] ∧ (∀ c ∈ ds, c.isDigit) ∧
    Nat.ofDigitChars 10 ds 0 = n

/-- A numeral of the number that has no sign. -/
def Decimal.Unsigned (ds : List Char) (n : Nat) : Prop :=
  ds ≠ [] ∧ (∀ c ∈ ds, c.isDigit) ∧ Nat.ofDigitChars 10 ds 0 = n

theorem Decimal.unsigned_digits (n : Nat) : Unsigned (digits n) n :=
  ⟨Nat.toDigits_ne_nil, fun _ => Nat.isDigit_of_mem_toDigits (by decide) (by decide),
    Nat.ofDigitChars_toDigits (by decide) (by decide)⟩

theorem Decimal.Unsigned.notMem {c : Char} (hc : c.isDigit = false) {ds : List Char} {n : Nat}
    (h : Unsigned ds n) : c ∉ ds :=
  fun hmem => by simp [h.2.1 c hmem] at hc

theorem Decimal.spells_digits (n : Nat) : Spells (digits n) n :=
  ⟨digits n, .inl rfl, unsigned_digits n⟩

theorem Decimal.Spells.notMem {c : Char} (hc : c.isDigit = false) (hplus : c ≠ '+')
    {cs : List Char} {n : Nat} (h : Spells cs n) : c ∉ cs := by
  obtain ⟨ds, hcs, hds⟩ := h
  have hds : c ∉ ds := Unsigned.notMem hc hds
  rcases hcs with rfl | rfl <;> simp [hds, hplus]

theorem Decimal.ofDigits?_eq_some_iff {ds : List Char} {n : Nat} :
    ofDigits? ds = some n ↔ Unsigned ds n := by
  simp only [ofDigits?, Unsigned, Option.ite_none_left_eq_some, Option.some.injEq, Bool.or_eq_true,
    Bool.not_eq_true', not_or, List.isEmpty_iff, Bool.not_eq_false, List.all_eq_true]
  exact and_assoc

theorem Decimal.word?_eq_some_iff {cs : List Char} {w : UInt64} :
    word? cs = some w ↔ Spells cs w.toNat := by
  have hword : ∀ ds : List Char, ((ofDigits? ds).bind fun n =>
        if h : n < UInt64.size then some (UInt64.ofNatLT n h) else none) = some w ↔
      ofDigits? ds = some w.toNat := by
    intro ds
    rw [Option.bind_eq_some_iff]
    constructor
    · intro hspec
      obtain ⟨n, hn, hw⟩ := hspec
      obtain ⟨hlt, hw⟩ := Option.dite_none_right_eq_some.1 hw
      obtain rfl := Option.some.inj hw
      simpa using hn
    · intro h
      exact ⟨_, h, by simp [w.toNat_lt]⟩
  have hplus : ('+' : Char).isDigit = false := by decide
  unfold word?
  rw [hword, ofDigits?_eq_some_iff]
  split
  · next rest =>
      constructor
      · exact fun h => ⟨rest, .inr rfl, h⟩
      · intro hspec
        obtain ⟨ds, hds | hds, h⟩ := hspec
        · -- the sign cannot be one of the digits
          have := h.2.1 '+' (by simp [← hds])
          simp [hplus] at this
        · cases hds
          exact h
  · next hunsigned =>
      constructor
      · exact fun h => ⟨cs, .inl rfl, h⟩
      · intro hspec
        obtain ⟨ds, hds | hds, h⟩ := hspec
        · exact hds ▸ h
        · exact absurd hds (hunsigned ds)

namespace Decimal

/-! ## Leading zeros -/

theorem exists_digitChar_of_isDigit {c : Char} (h : c.isDigit) :
    ∃ d < 10, Nat.digitChar d = c := by
  have hrange : 48 ≤ c.toNat ∧ c.toNat ≤ 57 := Char.isDigit_iff_toNat.1 h
  have hlt : c.toNat - 48 < 10 := by omega
  refine ⟨c.toNat - 48, hlt, Char.toNat_inj.1 ?_⟩
  rw [Nat.toNat_digitChar_of_lt_ten hlt]
  omega

theorem digits_append {n : Nat} (hn : 0 < n) {ds : List Char} (h : ∀ c ∈ ds, c.isDigit) :
    digits n ++ ds = digits (Nat.ofDigitChars 10 ds n) := by
  induction ds generalizing n with
  | nil => simp [Nat.ofDigitChars_nil]
  | cons c ds ih =>
      rw [List.forall_mem_cons] at h
      obtain ⟨d, hd, rfl⟩ := exists_digitChar_of_isDigit h.1
      have hnext : digits n ++ [Nat.digitChar d] = digits (10 * n + d) := by
        rw [digits, digits, ← Nat.toDigits_append_toDigits (by decide) hn hd,
          Nat.toDigits_of_lt_base hd]
      rw [Nat.ofDigitChars_cons_digitChar_of_lt_ten hd, ← ih (by omega) h.2, ← hnext,
        List.append_assoc, List.singleton_append]

theorem digits_ofDigitChars {c : Char} (hzero : c ≠ '0') {ds : List Char}
    (h : ∀ d ∈ c :: ds, d.isDigit) : digits (Nat.ofDigitChars 10 (c :: ds) 0) = c :: ds := by
  rw [List.forall_mem_cons] at h
  obtain ⟨d, hd, rfl⟩ := exists_digitChar_of_isDigit h.1
  have hpos : 0 < d := Nat.pos_of_ne_zero fun hd => hzero (Nat.digitChar_eq_zero.2 hd)
  rw [Nat.ofDigitChars_cons_digitChar_of_lt_ten hd, Nat.mul_zero, Nat.zero_add,
    ← digits_append hpos h.2, digits, Nat.toDigits_of_lt_base hd, List.singleton_append]

theorem head?_digits_ne_zero {n : Nat} (hn : 0 < n) : (digits n).head? ≠ some '0' := by
  induction n using Nat.strongRecOn with
  | ind n ih =>
      rw [digits, Nat.toDigits_eq_if (by decide)]
      split
      · simpa using Nat.ne_of_gt hn
      · next hten =>
          rw [List.head?_append_of_ne_nil _ Nat.toDigits_ne_nil]
          exact ih (n / 10) (by omega) (by omega)

/-- The numeral that is written for a number is its only one without a zero before other digits. -/
theorem eq_digits_iff {cs : List Char} {n : Nat} :
    cs = digits n ↔ Unsigned cs n ∧ (cs.head? = some '0' → cs.length = 1) := by
  constructor
  · intro h
    subst h
    refine ⟨unsigned_digits n, fun hzero => ?_⟩
    rcases Nat.eq_zero_or_pos n with rfl | hpos
    · rfl
    · exact absurd hzero (head?_digits_ne_zero hpos)
  · intro h
    obtain ⟨⟨hne, hdigits, rfl⟩, hzero⟩ := h
    obtain ⟨c, ds, rfl⟩ := List.exists_cons_of_ne_nil hne
    by_cases hc : c = '0'
    · subst hc
      obtain rfl : ds = [] := by simpa using hzero rfl
      rfl
    · exact (digits_ofDigitChars hc hdigits).symm

end Decimal

end Changesets
