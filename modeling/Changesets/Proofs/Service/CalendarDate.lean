import Changesets.Proofs.Decimal
import Changesets.Proofs.Text.Blank
import Changesets.Service.CalendarDate
import Mathlib.Data.Prod.Lex
import Mathlib.Order.Basic

/-!
The texts that are dates. The reader takes the longest run of digits that is allowed at each place,
and what follows a year or a month in a date is a hyphen, so that `parse?_eq_some_iff` can say which
texts are accepted without mentioning how far the reader goes. Dates are in the lexicographic order
of year, month and day.
-/
namespace Changesets.Service.CalendarDate

/-- White space and then a text of the given kind. -/
def Padded (kind : List Char → Prop) (cs : List Char) : Prop :=
  ∃ blanks text, cs = blanks ++ text ∧ (∀ c ∈ blanks, Text.isBlank c) ∧ kind text

/-- The ways to write a year. -/
inductive YearText : List Char → Int → Prop
  | unsigned {ds : List Char} {n : Nat} (h : Decimal.Unsigned ds n) (hwidth : ds.length ≤ 4) :
      YearText ds n
  | plus {ds : List Char} {n : Nat} (h : Decimal.Unsigned ds n) : YearText ('+' :: ds) n
  | minus {ds : List Char} {n : Nat} (h : Decimal.Unsigned ds n) : YearText ('-' :: ds) (-(n : Int))

/-- The ways to write a month or a day. -/
def FieldText (ds : List Char) (n : Nat) : Prop :=
  Decimal.Unsigned ds n ∧ ds.length ≤ 2

/-- The text is a year, a month and a day with hyphens between them, and they are a date. -/
def Spells (cs : List Char) (date : CalendarDate) : Prop :=
  ∃ year month day, cs = year ++ '-' :: month ++ '-' :: day ∧
    Padded (YearText · date.year) year ∧ Padded (FieldText · date.month) month ∧
    Padded (FieldText · date.day) day ∧ date.Valid

/-! ## Numbers -/

theorem takeNumber?_eq_some {width n : Nat} {cs left : List Char}
    (h : takeNumber? width cs = some (n, left)) :
    ∃ ds, cs = ds ++ left ∧ Decimal.Unsigned ds n ∧ ds.length ≤ width := by
  obtain ⟨n', hn, heq⟩ := Option.map_eq_some_iff.1 h
  obtain ⟨rfl, rfl⟩ := Prod.mk.inj heq
  have hprefix : ((cs.take width).takeWhile Char.isDigit) <+: cs :=
    (List.takeWhile_prefix _).trans (List.take_prefix width cs)
  exact ⟨_, (List.prefix_iff_eq_append.1 hprefix).symm, Decimal.ofDigits?_eq_some_iff.1 hn,
    (List.takeWhile_prefix _).length_le.trans (List.length_take_le width cs)⟩

theorem takeNumber?_append {width n : Nat} {ds left : List Char} (h : Decimal.Unsigned ds n)
    (hwidth : ds.length ≤ width) (hleft : ∀ c ∈ left.head?, c.isDigit = false) :
    takeNumber? width (ds ++ left) = some (n, left) := by
  have hhead : ∀ c ∈ (left.take (width - ds.length)).head?, c.isDigit = false := by
    intro c hc
    rw [List.head?_take] at hc
    split at hc
    · cases hc
    · exact hleft c hc
  have htake : ((ds ++ left).take width).takeWhile Char.isDigit = ds := by
    rw [List.take_append, List.take_of_length_le hwidth]
    exact (takeWhile_append_of_head h.2.1 hhead).1
  rw [takeNumber?, htake, Decimal.ofDigits?_eq_some_iff.2 h, Option.map_some, List.drop_left]

/-! ## Years, months and days -/

theorem takeYear?_eq_some {cs left : List Char} {year : Int}
    (h : takeYear? cs = some (year, left)) : ∃ text, cs = text ++ left ∧ YearText text year := by
  unfold takeYear? at h
  split at h
  all_goals
    obtain ⟨⟨n, _⟩, hn, heq⟩ := Option.map_eq_some_iff.1 h
    obtain ⟨rfl, rfl⟩ := Prod.mk.inj heq
    obtain ⟨ds, rfl, hds, hwidth⟩ := takeNumber?_eq_some hn
  · exact ⟨'-' :: ds, rfl, .minus hds⟩
  · exact ⟨'+' :: ds, rfl, .plus hds⟩
  · exact ⟨ds, rfl, .unsigned hds hwidth⟩

theorem takeYear?_append {text left : List Char} {year : Int} (h : YearText text year)
    (hleft : ∀ c ∈ left.head?, c.isDigit = false) :
    takeYear? (text ++ left) = some (year, left) := by
  cases h with
  | unsigned h hwidth =>
      -- no sign is read where a digit stands
      have hhead (c : Char) (hc : c.isDigit = false) (rest : List Char) :
          text ++ left ≠ c :: rest := by
        intro heq
        refine h.notMem hc (List.mem_of_mem_head? ?_)
        rw [← List.head?_append_of_ne_nil _ h.1, heq, List.head?_cons, Option.mem_some]
      unfold takeYear?
      split
      · next heq => exact absurd heq (hhead '-' (by decide) _)
      · next heq => exact absurd heq (hhead '+' (by decide) _)
      · rw [takeNumber?_append h hwidth hleft, Option.map_some]
  | plus h =>
      rw [List.cons_append, takeYear?, takeNumber?_append h (by simp) hleft, Option.map_some]
  | minus h =>
      rw [List.cons_append, takeYear?, takeNumber?_append h (by simp) hleft, Option.map_some]

theorem Padded.exists_trimLeft {kind : List Char → Prop} {cs : List Char}
    (h : Padded kind cs) (left : List Char)
    (hkind : ∀ text, kind text → text ≠ [] ∧ ∀ c ∈ text.head?, Text.isBlank c = false) :
    ∃ text, Text.trimLeft (cs ++ left) = text ++ left ∧ kind text := by
  obtain ⟨blanks, text, rfl, hblanks, htext⟩ := h
  obtain ⟨hne, hhead⟩ := hkind text htext
  refine ⟨text, ?_, htext⟩
  rw [List.append_assoc, Text.trimLeft_append hblanks]
  rwa [List.head?_append_of_ne_nil _ hne]

theorem head_of_unsigned {ds : List Char} {n : Nat} (h : Decimal.Unsigned ds n) :
    ds ≠ [] ∧ ∀ c ∈ ds.head?, Text.isBlank c = false :=
  ⟨h.1, fun c hc => Text.isBlank_of_isDigit (h.2.1 c (List.mem_of_mem_head? hc))⟩

theorem YearText.head {text : List Char} {year : Int} (h : YearText text year) :
    text ≠ [] ∧ ∀ c ∈ text.head?, Text.isBlank c = false := by
  cases h with
  | unsigned h hwidth => exact head_of_unsigned h
  | plus h | minus h => simpa using by decide

theorem takeField?_eq_some {cs left : List Char} {n : Nat} (h : takeField? cs = some (n, left)) :
    ∃ field, cs = '-' :: field ++ left ∧ Padded (FieldText · n) field := by
  unfold takeField? at h
  split at h
  · next rest =>
      obtain ⟨ds, hds, hfield⟩ := takeNumber?_eq_some h
      obtain ⟨blanks, hrest, hblanks, -⟩ := Text.exists_trimLeft rest
      refine ⟨blanks ++ ds, ?_, blanks, ds, rfl, hblanks, hfield⟩
      rw [List.cons_append, List.append_assoc, ← hds, ← hrest]
  · cases h

theorem takeField?_append {field left : List Char} {n : Nat} (h : Padded (FieldText · n) field)
    (hleft : ∀ c ∈ left.head?, c.isDigit = false) :
    takeField? ('-' :: field ++ left) = some (n, left) := by
  obtain ⟨ds, htrim, hds, hwidth⟩ := h.exists_trimLeft left fun _ h => head_of_unsigned h.1
  rw [List.cons_append, takeField?, htrim, takeNumber?_append hds hwidth hleft]

/-! ## Dates -/

theorem parse?_eq_some_iff {cs : List Char} {date : CalendarDate} :
    parse? cs = some date ↔ Spells cs date := by
  constructor
  · intro h
    simp only [parse?, Option.bind_eq_bind, Option.bind_eq_some_iff, Prod.exists,
      Option.ite_none_right_eq_some, Option.some.injEq, List.isEmpty_iff] at h
    obtain ⟨_, _, hyear, _, _, hmonth, _, _, hday, ⟨rfl, hvalid⟩, rfl⟩ := h
    obtain ⟨blanks, hcs, hblanks, -⟩ := Text.exists_trimLeft cs
    obtain ⟨year, htrim, hyearText⟩ := takeYear?_eq_some hyear
    obtain ⟨month, rfl, hmonthText⟩ := takeField?_eq_some hmonth
    obtain ⟨day, rfl, hdayText⟩ := takeField?_eq_some hday
    refine ⟨blanks ++ year, month, day, ?_, ⟨blanks, year, rfl, hblanks, hyearText⟩, hmonthText,
      hdayText, hvalid⟩
    rw [hcs, htrim]
    simp
  · intro h
    obtain ⟨year, month, day, rfl, hyear, hmonth, hday, hvalid⟩ := h
    -- what is left after a year or a month begins with a hyphen, so the reader goes no further
    have hhyphen (rest : List Char) : ∀ c ∈ ('-' :: rest).head?, c.isDigit = false := by
      simp
    obtain ⟨text, htrim, hyearText⟩ := hyear.exists_trimLeft ('-' :: month ++ '-' :: day)
      fun _ h => h.head
    have hyearTaken := takeYear?_append hyearText (hhyphen (month ++ '-' :: day))
    have hmonthTaken := takeField?_append hmonth (hhyphen day)
    have hdayTaken : takeField? ('-' :: day) = some (date.day, []) := by
      rw [← List.append_nil ('-' :: day)]
      exact takeField?_append hday (by simp)
    rw [List.cons_append] at htrim hmonthTaken
    simp only [parse?, List.append_assoc, List.cons_append, htrim, hyearTaken, hmonthTaken,
      hdayTaken, Option.bind_eq_bind, Option.bind_some, List.isEmpty_nil]
    rw [if_pos ⟨trivial, hvalid⟩]

theorem Padded.notMem {kind : List Char → Prop} {c : Char} (hc : Text.isBlank c = false)
    (hkind : ∀ text, kind text → c ∉ text) {cs : List Char} (h : Padded kind cs) : c ∉ cs := by
  obtain ⟨blanks, text, rfl, hblanks, htext⟩ := h
  have hnot : c ∉ blanks := fun hmem => by simp [hblanks c hmem] at hc
  simp [hnot, hkind text htext]

theorem YearText.notMem {c : Char} (hc : c.isDigit = false) (hplus : c ≠ '+') (hminus : c ≠ '-')
    {text : List Char} {year : Int} (h : YearText text year) : c ∉ text := by
  cases h with
  | unsigned h hwidth => exact h.notMem hc
  | plus h => simp [hplus, h.notMem hc]
  | minus h => simp [hminus, h.notMem hc]

theorem Spells.notMem {c : Char} (hc : c.isDigit = false) (hblank : Text.isBlank c = false)
    (hplus : c ≠ '+') (hminus : c ≠ '-') {cs : List Char} {date : CalendarDate}
    (h : Spells cs date) : c ∉ cs := by
  obtain ⟨year, month, day, rfl, hyear, hmonth, hday, -⟩ := h
  have hyear : c ∉ year := hyear.notMem hblank fun _ h => h.notMem hc hplus hminus
  have hmonth : c ∉ month := hmonth.notMem hblank fun _ h => h.1.notMem hc
  have hday : c ∉ day := hday.notMem hblank fun _ h => h.1.notMem hc
  simp [hyear, hmonth, hday, hminus]

/-- Year, month and day in the order in which they count. -/
def triple (date : CalendarDate) : ℤ ×ₗ ℕ ×ₗ ℕ :=
  toLex (date.year, toLex (date.month, date.day))

theorem notBefore_iff {a b : CalendarDate} : a.notBefore b ↔ b.triple ≤ a.triple := by
  simp only [notBefore, triple, Prod.Lex.toLex_le_toLex, Bool.or_eq_true, Bool.and_eq_true,
    decide_eq_true_eq]

end Changesets.Service.CalendarDate
