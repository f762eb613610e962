import Changesets.Proofs.Decimal
import Changesets.Proofs.Text.Run
import Changesets.Service.SemanticVersion
import Mathlib.Data.Prod.Lex
import Mathlib.Order.Basic

/-!
The texts that are semantic versions. A version is written by its three numbers, its pre-release
identifiers and its build identifiers, and `release?_eq_some_iff` says that the reader accepts
exactly what is written so. Releases are in the lexicographic order of their numbers.
-/
namespace Changesets.Service

namespace SemanticVersion

/-! ## Pieces -/

theorem splitAll_eq_splitOn (separator : Char) (cs : List Char) :
    splitAll separator cs = cs.splitOn separator := by
  induction cs with
  | nil => rw [splitAll, List.splitOn_nil]
  | cons c cs ih =>
      obtain ⟨piece, rest, hpieces⟩ := List.exists_cons_of_ne_nil (List.splitOn_ne_nil separator cs)
      rw [splitAll, List.splitOn_cons_eq_if_modifyHead, ih, hpieces]
      by_cases h : c = separator <;> simp [h]

theorem notMem_of_mem_splitAll {separator : Char} {cs piece : List Char}
    (h : piece ∈ splitAll separator cs) : separator ∉ piece := by
  induction cs generalizing piece with
  | nil =>
      rw [splitAll, List.mem_singleton] at h
      simp [h]
  | cons c cs ih =>
      rw [splitAll] at h
      split at h
      · rcases List.mem_cons.1 h with rfl | h
        · simp
        · exact ih h
      · next hc =>
          split at h
          · rw [List.mem_singleton.1 h]
            simpa using Ne.symm hc
          · next first rest hpieces =>
              rcases List.mem_cons.1 h with rfl | h
              · have hfirst : separator ∉ first := ih (by simp [hpieces])
                simp [hfirst, Ne.symm hc]
              · exact ih (by simp [hpieces, h])

/-- The pieces of a text are the only ones without the separator that it joins to the text. -/
theorem splitAll_eq_iff {separator : Char} {cs : List Char} {pieces : List (List Char)} :
    splitAll separator cs = pieces ↔
      pieces ≠ [] ∧ (∀ piece ∈ pieces, separator ∉ piece) ∧
        cs = [separator].intercalate pieces := by
  constructor
  · intro h
    subst h
    refine ⟨?_, fun piece hpiece => notMem_of_mem_splitAll hpiece, ?_⟩
    · rw [splitAll_eq_splitOn]
      exact List.splitOn_ne_nil separator cs
    · rw [splitAll_eq_splitOn, List.intercalate_splitOn]
  · intro h
    obtain ⟨hne, hpieces, rfl⟩ := h
    rw [splitAll_eq_splitOn, List.splitOn_intercalate separator hpieces hne]

/-- Characters after a mark, or nothing. -/
def marked (mark : Char) : Option (List Char) → List Char
  | some cs => mark :: cs
  | none => []

theorem splitOff_marked {mark : Char} {before : List Char} (h : mark ∉ before)
    (rest : Option (List Char)) : splitOff mark (before ++ marked mark rest) = (before, rest) := by
  have hbefore : ∀ c ∈ before, decide (c ≠ mark) = true :=
    fun c hc => decide_eq_true fun heq => h (heq ▸ hc)
  have hhead : ∀ c ∈ (marked mark rest).head?, decide (c ≠ mark) = false := by
    cases rest with
    | none => simp [marked]
    | some cs => simp [marked]
  obtain ⟨htaken, hdropped⟩ := takeWhile_append_of_head hbefore hhead
  rw [splitOff, htaken, hdropped]
  cases rest with
  | none => simp [marked]
  | some cs => rfl

theorem exists_marked (mark : Char) (cs : List Char) :
    ∃ before rest, mark ∉ before ∧ cs = before ++ marked mark rest := by
  by_cases h : mark ∈ cs
  · obtain ⟨before, after, rfl, hbefore⟩ := List.eq_append_cons_of_mem h
    exact ⟨before, some after, hbefore, rfl⟩
  · exact ⟨cs, none, h, (List.append_nil cs).symm⟩

/-! ## Numbers -/

theorem hasLeadingZero_eq_false_iff {cs : List Char} :
    hasLeadingZero cs = false ↔ (cs.head? = some '0' → cs.length = 1) := by
  match cs with
  | [] => simp [hasLeadingZero]
  | [c] => simp [hasLeadingZero]
  | c :: d :: rest =>
      by_cases hc : c = '0' <;> simp [hasLeadingZero, hc]

theorem exists_eq_digits_iff {cs : List Char} :
    (∃ n, cs = Decimal.digits n) ↔
      cs ≠ [] ∧ (∀ c ∈ cs, c.isDigit) ∧ hasLeadingZero cs = false := by
  simp only [Decimal.eq_digits_iff, hasLeadingZero_eq_false_iff]
  constructor
  · intro h
    obtain ⟨n, ⟨hne, hdigits, -⟩, hzero⟩ := h
    exact ⟨hne, hdigits, hzero⟩
  · intro h
    obtain ⟨hne, hdigits, hzero⟩ := h
    exact ⟨_, ⟨hne, hdigits, rfl⟩, hzero⟩

theorem notMem_digits {c : Char} (hc : c.isDigit = false) (n : Nat) : c ∉ Decimal.digits n :=
  (Decimal.unsigned_digits n).notMem hc

theorem number?_eq_some_iff {cs : List Char} {w : UInt64} :
    number? cs = some w ↔ cs = Decimal.digits w.toNat := by
  constructor
  · intro h
    simp only [number?, Option.ite_none_left_eq_some, Bool.or_eq_true, decide_eq_true_eq, not_or,
      Bool.not_eq_true] at h
    obtain ⟨⟨hplus, hzero⟩, hword⟩ := h
    obtain ⟨ds, rfl | rfl, hds⟩ := Decimal.word?_eq_some_iff.1 hword
    · exact Decimal.eq_digits_iff.2 ⟨hds, hasLeadingZero_eq_false_iff.1 hzero⟩
    · exact absurd rfl hplus
  · intro h
    subst h
    have hzero := (exists_eq_digits_iff.1 ⟨w.toNat, rfl⟩).2.2
    have hplus : (Decimal.digits w.toNat).head? ≠ some '+' :=
      fun h => notMem_digits (by decide) _ (List.mem_of_mem_head? h)
    simp [number?, hplus, hzero, Decimal.word?_digits]

/-! ## Versions -/

/-- Letters, digits and hyphens, and at least one of them. -/
def Identifier (cs : List Char) : Prop :=
  cs ≠ [] ∧ ∀ c ∈ cs, c.isAlphanum ∨ c = '-'

/-- An identifier that has no leading zero if all of it is digits. -/
def PrereleaseIdentifier (cs : List Char) : Prop :=
  Identifier cs ∧ ((∀ c ∈ cs, c.isDigit) → ∃ n, cs = Decimal.digits n)

/-- Identifiers with points between them after a mark. Nothing is written where there are none. -/
def suffix (mark : Char) (identifiers : List (List Char)) : List Char :=
  if identifiers = [] then [] else mark :: ['.'].intercalate identifiers

/-- The numbers with points between them, each without leading zeros. -/
def core (numbers : Release) : List Char :=
  ['.'].intercalate [Decimal.digits numbers.major.toNat, Decimal.digits numbers.minor.toNat,
    Decimal.digits numbers.patch.toNat]

/-- The text is a semantic version with these numbers. -/
def Spells (cs : List Char) (numbers : Release) : Prop :=
  ∃ prerelease build, cs = core numbers ++ suffix '-' prerelease ++ suffix '+' build ∧
    (∀ identifier ∈ prerelease, PrereleaseIdentifier identifier) ∧
    ∀ identifier ∈ build, Identifier identifier

theorem isIdentifier_iff {cs : List Char} : isIdentifier cs ↔ Identifier cs := by
  simp [isIdentifier, Identifier]

theorem isPrereleaseIdentifier_iff {cs : List Char} :
    isPrereleaseIdentifier cs ↔ PrereleaseIdentifier cs := by
  rw [isPrereleaseIdentifier, PrereleaseIdentifier, Bool.and_eq_true, isIdentifier_iff]
  refine and_congr_right fun hidentifier => ?_
  rw [exists_eq_digits_iff]
  by_cases hdigits : ∀ c ∈ cs, c.isDigit
  · rw [List.all_eq_true.2 hdigits, Bool.true_and, Bool.not_eq_true']
    exact ⟨fun h _ => ⟨hidentifier.1, hdigits, h⟩, fun h => (h hdigits).2.2⟩
  · simp [mt List.all_eq_true.1 hdigits, hdigits]

theorem Identifier.notMem {c : Char} (hc : c.isAlphanum = false) (hhyphen : c ≠ '-')
    {cs : List Char} (h : Identifier cs) : c ∉ cs := by
  intro hmem
  rcases h.2 c hmem with halphanum | rfl
  · exact absurd halphanum (by simp [hc])
  · exact hhyphen rfl

theorem notMem_intercalate {c separator : Char} (hc : c ≠ separator) {pieces : List (List Char)}
    (h : ∀ piece ∈ pieces, c ∉ piece) : c ∉ [separator].intercalate pieces := by
  induction pieces with
  | nil => simp
  | cons piece pieces ih =>
      rw [List.forall_mem_cons] at h
      cases pieces with
      | nil => simpa using h.1
      | cons next pieces =>
          rw [List.intercalate_cons_cons]
          simp [h.1, hc, ih h.2]

theorem notMem_suffix {c mark : Char} (hmark : c ≠ mark) (hpoint : c ≠ '.')
    {identifiers : List (List Char)} (h : ∀ identifier ∈ identifiers, c ∉ identifier) :
    c ∉ suffix mark identifiers := by
  rw [suffix]
  split
  · exact List.not_mem_nil
  · simp [hmark, notMem_intercalate hpoint h]

theorem notMem_core {c : Char} (hc : c.isDigit = false) (hpoint : c ≠ '.') (numbers : Release) :
    c ∉ core numbers :=
  notMem_intercalate hpoint (by simp [notMem_digits hc])

/-- What stands after a mark is a list of identifiers exactly if its pieces pass the test. -/
theorem all_splitAll_iff {test : List Char → Bool} {good : List Char → Prop}
    (htest : ∀ identifier, test identifier ↔ good identifier)
    (hpoint : ∀ identifier, good identifier → '.' ∉ identifier) (mark : Char)
    (rest : Option (List Char)) :
    (rest.all fun cs => (splitAll '.' cs).all test) ↔
      ∃ identifiers, marked mark rest = suffix mark identifiers ∧
        ∀ identifier ∈ identifiers, good identifier := by
  cases rest with
  | none => simpa using ⟨[], rfl, by simp⟩
  | some cs =>
      rw [Option.all_some, List.all_eq_true]
      constructor
      · intro h
        obtain ⟨hne, -, hcs⟩ := splitAll_eq_iff.1 (rfl : splitAll '.' cs = splitAll '.' cs)
        refine ⟨splitAll '.' cs, ?_, fun identifier hmem => (htest identifier).1 (h _ hmem)⟩
        rw [suffix, if_neg hne, ← hcs]
        rfl
      · intro h
        obtain ⟨identifiers, hmarked, hgood⟩ := h
        rw [suffix] at hmarked
        split at hmarked
        · cases hmarked
        · next hne =>
            have hsplit : splitAll '.' cs = identifiers := splitAll_eq_iff.2
              ⟨hne, fun identifier hmem => hpoint _ (hgood _ hmem), (List.cons.inj hmarked).2⟩
            rw [hsplit]
            exact fun identifier hmem => (htest identifier).2 (hgood _ hmem)

theorem exists_marked_eq_suffix (mark : Char) (identifiers : List (List Char)) :
    ∃ rest, marked mark rest = suffix mark identifiers := by
  rw [suffix]
  split
  · exact ⟨none, rfl⟩
  · exact ⟨some _, rfl⟩

theorem all_prerelease_iff (rest : Option (List Char)) :
    (rest.all fun cs => (splitAll '.' cs).all isPrereleaseIdentifier) ↔
      ∃ identifiers, marked '-' rest = suffix '-' identifiers ∧
        ∀ identifier ∈ identifiers, PrereleaseIdentifier identifier :=
  all_splitAll_iff (fun _ => isPrereleaseIdentifier_iff)
    (fun _ h => h.1.notMem (by decide) (by decide)) '-' rest

theorem all_build_iff (rest : Option (List Char)) :
    (rest.all fun cs => (splitAll '.' cs).all isIdentifier) ↔
      ∃ identifiers, marked '+' rest = suffix '+' identifiers ∧
        ∀ identifier ∈ identifiers, Identifier identifier :=
  all_splitAll_iff (fun _ => isIdentifier_iff) (fun _ h => h.notMem (by decide) (by decide))
    '+' rest

theorem splitAll_core (numbers : Release) :
    splitAll '.' (core numbers) = [Decimal.digits numbers.major.toNat,
      Decimal.digits numbers.minor.toNat, Decimal.digits numbers.patch.toNat] := by
  refine splitAll_eq_iff.2 ⟨List.cons_ne_nil _ _, ?_, rfl⟩
  simp [notMem_digits (c := '.') (by decide)]

theorem release?_eq_some_iff {cs : List Char} {numbers : Release} :
    release? cs = some numbers ↔ Spells cs numbers := by
  constructor
  · intro h
    obtain ⟨version, build, hplus, rfl⟩ := exists_marked '+' cs
    obtain ⟨front, prerelease, hhyphen, rfl⟩ := exists_marked '-' version
    simp only [release?, splitOff_marked hplus, splitOff_marked hhyphen,
      Option.ite_none_right_eq_some, Bool.and_eq_true, all_build_iff, all_prerelease_iff] at h
    obtain ⟨⟨⟨builds, hbuild, hbuilds⟩, prereleases, hprerelease, hprereleases⟩, h⟩ := h
    split at h
    · next major minor patch hpieces =>
        obtain ⟨-, -, rfl⟩ := splitAll_eq_iff.1 hpieces
        simp only [Option.bind_eq_bind, Option.bind_eq_some_iff, number?_eq_some_iff,
          Option.pure_def, Option.some.injEq] at h
        obtain ⟨_, rfl, _, rfl, _, rfl, rfl⟩ := h
        exact ⟨prereleases, builds, by rw [hbuild, hprerelease]; rfl, hprereleases, hbuilds⟩
    · cases h
  · intro h
    obtain ⟨prereleases, builds, rfl, hprereleases, hbuilds⟩ := h
    obtain ⟨prerelease, hprerelease⟩ := exists_marked_eq_suffix '-' prereleases
    obtain ⟨build, hbuild⟩ := exists_marked_eq_suffix '+' builds
    -- the first marks are those of the spelling, although hyphens may be in identifiers
    have hhyphen : '-' ∉ core numbers := notMem_core (by decide) (by decide) numbers
    have hplus : '+' ∉ core numbers ++ marked '-' prerelease := by
      rw [hprerelease, List.mem_append, not_or]
      exact ⟨notMem_core (by decide) (by decide) numbers, notMem_suffix (by decide) (by decide)
        fun identifier hmem => (hprereleases identifier hmem).1.notMem (by decide) (by decide)⟩
    have hbuildTest := (all_build_iff build).2 ⟨builds, hbuild, hbuilds⟩
    have hprereleaseTest := (all_prerelease_iff prerelease).2
      ⟨prereleases, hprerelease, hprereleases⟩
    rw [← hbuild, ← hprerelease]
    simp only [release?, splitOff_marked hplus, splitOff_marked hhyphen, hbuildTest,
      hprereleaseTest, splitAll_core, number?_eq_some_iff.2 rfl, Bool.and_self, if_true,
      Option.bind_eq_bind, Option.bind_some, Option.pure_def]

theorem Spells.exists_digit {cs : List Char} {numbers : Release} (h : Spells cs numbers) :
    ∃ c rest, cs = c :: rest ∧ c.isDigit := by
  obtain ⟨prereleases, builds, rfl, -, -⟩ := h
  obtain ⟨hne, hdigits, -⟩ := Decimal.unsigned_digits numbers.major.toNat
  obtain ⟨c, rest, hmajor⟩ := List.exists_cons_of_ne_nil hne
  rw [core, List.intercalate_cons_cons, hmajor]
  exact ⟨c, _, rfl, hdigits c (by simp [hmajor])⟩

theorem Spells.notMem {c : Char} (hc : c.isAlphanum = false) (hhyphen : c ≠ '-') (hplus : c ≠ '+')
    (hpoint : c ≠ '.') {cs : List Char} {numbers : Release} (h : Spells cs numbers) : c ∉ cs := by
  obtain ⟨prereleases, builds, rfl, hprereleases, hbuilds⟩ := h
  have hdigit : c.isDigit = false := (Bool.or_eq_false_iff.1 hc).2
  simp only [List.mem_append, not_or]
  exact ⟨⟨notMem_core hdigit hpoint numbers, notMem_suffix hhyphen hpoint
    fun identifier hmem => (hprereleases identifier hmem).1.notMem hc hhyphen⟩,
    notMem_suffix hplus hpoint fun identifier hmem => (hbuilds identifier hmem).notMem hc hhyphen⟩

end SemanticVersion

/-! ## Order -/

namespace Release

/-- The numbers in the order in which they count. -/
def triple (numbers : Release) : ℕ ×ₗ ℕ ×ₗ ℕ :=
  toLex (numbers.major.toNat, toLex (numbers.minor.toNat, numbers.patch.toNat))

theorem atLeast_iff {a b : Release} : a.atLeast b ↔ b.triple ≤ a.triple := by
  simp only [atLeast, triple, Prod.Lex.toLex_le_toLex, UInt64.lt_iff_toNat_lt,
    UInt64.le_iff_toNat_le, ← UInt64.toNat_inj, Bool.or_eq_true, Bool.and_eq_true,
    decide_eq_true_eq]

end Release

end Changesets.Service
