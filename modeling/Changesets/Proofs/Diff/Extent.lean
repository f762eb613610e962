import Changesets.Proofs.Diff.Hunk
import Mathlib.Order.Bounds.Basic

/-!
How far a hunk goes. Its lines end where both sides have as many as the header declares, whatever
they look like, and then markers are taken on. `takeHunk_extent` says so by counting the lines from
the front, and says for all other lines which of them is at fault and what the fault is. Nothing is
said about what stands before the header.
-/
namespace Changesets.Diff

/-! ## Counting by first characters -/

/-- Context, which may be an empty line, and removed lines. -/
def onOldSide (line : String) : Bool :=
  line.toList.head?.all fun c => c ∈ [' ', '-']

/-- Context, which may be an empty line, and added lines. -/
def onNewSide (line : String) : Bool :=
  line.toList.head?.all fun c => c ∈ [' ', '+']

theorem LineKind.counts_eq {line : String} {kind : LineKind} (h : ofLine? line = some kind) :
    kind.oldLines = (if onOldSide line then 1 else 0) ∧
      kind.newLines = if onNewSide line then 1 else 0 := by
  rw [ofLine?] at h
  rw [onOldSide, onNewSide]
  generalize line.toList = cs at h
  split at h <;> cases h <;> simp [LineKind.oldLines, LineKind.newLines]

theorem countP_side_cons {line : String} {kind : LineKind} (h : LineKind.ofLine? line = some kind)
    (ls : List String) :
    (line :: ls).countP onOldSide = ls.countP onOldSide + kind.oldLines ∧
      (line :: ls).countP onNewSide = ls.countP onNewSide + kind.newLines := by
  rw [List.countP_cons, List.countP_cons, (LineKind.counts_eq h).1, (LineKind.counts_eq h).2]
  exact ⟨rfl, rfl⟩

/-! ## Where a body ends -/

/-- The first `k` lines are of the kinds that a body may have, and `old` and `new` of them are on
the two sides. -/
structure Completes (old new : Nat) (ls : List String) (k : Nat) : Prop where
  within : k ≤ ls.length
  bodyLines : ∀ line ∈ ls.take k, isBodyLine line
  onOld : (ls.take k).countP onOldSide = old
  onNew : (ls.take k).countP onNewSide = new

instance (old new : Nat) (ls : List String) (k : Nat) : Decidable (Completes old new ls k) :=
  decidable_of_iff (k ≤ ls.length ∧ (∀ line ∈ ls.take k, isBodyLine line) ∧
      (ls.take k).countP onOldSide = old ∧ (ls.take k).countP onNewSide = new)
    ⟨fun ⟨h1, h2, h3, h4⟩ => ⟨h1, h2, h3, h4⟩, fun ⟨h1, h2, h3, h4⟩ => ⟨h1, h2, h3, h4⟩⟩

/-- The line after the first `i` ones cannot belong to a body with these counts. `start` is the
number of the header and `number` that of the first line. -/
inductive Breaks (start number old new : Nat) (ls : List String) (i : Nat) : ParseError → Prop
  | missing : ls[i]? = none → Breaks start number old new ls i (.truncatedHunk start)
  | unclassified {line : String} : ls[i]? = some line → isBodyLine line = false →
      Breaks start number old new ls i (.truncatedHunk start)
  | overflow {line : String} : ls[i]? = some line → isBodyLine line →
      old < (ls.take (i + 1)).countP onOldSide ∨ new < (ls.take (i + 1)).countP onNewSide →
        Breaks start number old new ls i (.hunkOverflow (number + i))

/-- The first line that cannot belong to the body, and its fault. -/
def FirstBreak (start number old new : Nat) (ls : List String) (i : Nat) (e : ParseError) : Prop :=
  Breaks start number old new ls i e ∧ ∀ j < i, ∀ other, ¬ Breaks start number old new ls j other

section
variable {start number old new : Nat} {ls : List String} {e : ParseError}

theorem Breaks.unique {i : Nat} {other : ParseError} (h : Breaks start number old new ls i e)
    (hother : Breaks start number old new ls i other) : e = other := by
  cases h <;> cases hother <;> simp_all

theorem FirstBreak.unique {i j : Nat} {other : ParseError}
    (h : FirstBreak start number old new ls i e)
    (hother : FirstBreak start number old new ls j other) : e = other := by
  rcases Nat.lt_trichotomy i j with hlt | rfl | hlt
  · exact absurd h.1 (hother.2 i hlt e)
  · exact h.1.unique hother.1
  · exact absurd hother.1 (h.2 j hlt other)

theorem completes_zero_iff : Completes old new ls 0 ↔ old = 0 ∧ new = 0 := by
  constructor
  · intro h
    exact ⟨h.onOld.symm, h.onNew.symm⟩
  · rintro ⟨rfl, rfl⟩
    exact ⟨Nat.zero_le _, by simp, rfl, rfl⟩

/-! ## One line more at the front -/

section
variable {line : String} {kind : LineKind} (hkind : LineKind.ofLine? line = some kind)
include hkind

theorem isBodyLine_of_kind : isBodyLine line :=
  isBodyLine_iff.2 (by rw [hkind, Option.isSome_some])

theorem not_completes_of_exceeds (h : old < kind.oldLines ∨ new < kind.newLines) (k : Nat) :
    ¬ Completes old new (line :: ls) (k + 1) := by
  intro hk
  have hold := hk.onOld
  have hnew := hk.onNew
  rw [List.take_succ_cons, (countP_side_cons hkind _).1] at hold
  rw [List.take_succ_cons, (countP_side_cons hkind _).2] at hnew
  omega

variable (hold : kind.oldLines ≤ old) (hnew : kind.newLines ≤ new)
include hold hnew

theorem completes_cons_iff {k : Nat} :
    Completes old new (line :: ls) (k + 1) ↔
      Completes (old - kind.oldLines) (new - kind.newLines) ls k := by
  have hcounts := countP_side_cons hkind (ls.take k)
  constructor
  · intro h
    obtain ⟨hwithin, hbody, honOld, honNew⟩ := h
    rw [List.take_succ_cons] at hbody honOld honNew
    rw [List.forall_mem_cons] at hbody
    exact ⟨Nat.le_of_succ_le_succ hwithin, hbody.2, by omega, by omega⟩
  · intro h
    refine ⟨Nat.succ_le_succ h.within, ?_, ?_, ?_⟩
    · rw [List.take_succ_cons, List.forall_mem_cons]
      exact ⟨isBodyLine_of_kind hkind, h.bodyLines⟩
    · rw [List.take_succ_cons, hcounts.1, h.onOld, Nat.sub_add_cancel hold]
    · rw [List.take_succ_cons, hcounts.2, h.onNew, Nat.sub_add_cancel hnew]

theorem not_breaks_cons_zero : ¬ Breaks start number old new (line :: ls) 0 e := by
  have hcounts := countP_side_cons hkind []
  intro h
  cases h with
  | missing hnone => simp at hnone
  | unclassified hline hbody =>
      obtain rfl := Option.some.inj hline
      simp [isBodyLine_of_kind hkind] at hbody
  | overflow hline _ hover =>
      rw [Nat.zero_add, List.take_succ_cons, List.take_zero, hcounts.1, hcounts.2] at hover
      simp only [List.countP_nil] at hover
      omega

theorem breaks_cons_iff {i : Nat} :
    Breaks start number old new (line :: ls) (i + 1) e ↔
      Breaks start (number + 1) (old - kind.oldLines) (new - kind.newLines) ls i e := by
  have hcounts := countP_side_cons hkind (ls.take (i + 1))
  have hnumber : number + 1 + i = number + (i + 1) := by omega
  constructor
  · intro h
    cases h with
    | missing hnone => exact .missing (by simpa using hnone)
    | unclassified hline hbody => exact .unclassified (by simpa using hline) hbody
    | overflow hline hbody hover =>
        rw [List.take_succ_cons, hcounts.1, hcounts.2] at hover
        rw [← hnumber]
        exact .overflow (by simpa using hline) hbody (by omega)
  · intro h
    cases h with
    | missing hnone => exact .missing (by simpa using hnone)
    | unclassified hline hbody => exact .unclassified (by simpa using hline) hbody
    | overflow hline hbody hover =>
        rw [hnumber]
        refine .overflow (by simpa using hline) hbody ?_
        rw [List.take_succ_cons, hcounts.1, hcounts.2]
        omega

theorem FirstBreak.cons {i : Nat}
    (h : FirstBreak start (number + 1) (old - kind.oldLines) (new - kind.newLines) ls i e) :
    FirstBreak start number old new (line :: ls) (i + 1) e := by
  refine ⟨(breaks_cons_iff hkind hold hnew).2 h.1, fun j hj other hother => ?_⟩
  cases j with
  | zero => exact not_breaks_cons_zero hkind hold hnew hother
  | succ j =>
      exact h.2 j (Nat.lt_of_succ_lt_succ hj) other ((breaks_cons_iff hkind hold hnew).1 hother)

end

/-! ## The whole body -/

/-- Either some first lines complete the body, and the fewest of them are taken, or some line breaks
it, and the first such line is the fault. -/
theorem takeBody_outcome (start number old new : Nat) (ls : List String) :
    (∃ k, IsLeast {k | Completes old new ls k} k ∧
        takeBody start number old new ls = .ok (ls.take k, ls.drop k)) ∨
      (∀ k, ¬ Completes old new ls k) ∧
        ∃ i e, FirstBreak start number old new ls i e ∧
          takeBody start number old new ls = .error e := by
  fun_induction takeBody start number old new ls with
  | case1 number old new ls hcounts =>
      refine .inl ⟨0, ⟨completes_zero_iff.2 hcounts, fun k _ => Nat.zero_le k⟩, ?_⟩
      rw [List.take_zero, List.drop_zero]
  | case2 number old new hcounts =>
      refine .inr ⟨fun k hk => ?_, 0, _, ⟨.missing rfl, by simp⟩, rfl⟩
      obtain rfl : k = 0 := by simpa using hk.within
      exact hcounts (completes_zero_iff.1 hk)
  | case3 number old new hcounts line rest hkind =>
      have hbody : isBodyLine line = false := by
        rw [Bool.eq_false_iff, ne_eq, isBodyLine_iff, hkind, Option.isSome_none]
        exact Bool.false_ne_true
      refine .inr ⟨fun k hk => ?_, 0, _, ⟨.unclassified rfl hbody, by simp⟩, rfl⟩
      cases k with
      | zero => exact hcounts (completes_zero_iff.1 hk)
      | succ k =>
          have hline := hk.bodyLines line (by simp)
          simp [hbody] at hline
  | case4 number old new hcounts line rest kind hkind hover =>
      refine .inr ⟨fun k hk => ?_, 0, _, ⟨.overflow rfl (isBodyLine_of_kind hkind) ?_, by simp⟩,
        rfl⟩
      · cases k with
        | zero => exact hcounts (completes_zero_iff.1 hk)
        | succ k => exact not_completes_of_exceeds hkind hover k hk
      · have hline := countP_side_cons hkind []
        rw [Nat.zero_add, List.take_succ_cons, List.take_zero, hline.1, hline.2]
        simpa using hover
  | case5 number old new hcounts line rest kind hkind hle ih =>
      -- the counts that are left belong to the rest as those declared do to all lines
      rw [not_or, Nat.not_lt, Nat.not_lt] at hle
      obtain ⟨hold, hnew⟩ := hle
      rcases ih with ⟨k, ⟨hk, hleast⟩, htake⟩ | ⟨hnone, i, e, hfirst, htake⟩
      · refine .inl ⟨k + 1, ⟨(completes_cons_iff hkind hold hnew).2 hk, fun m hm => ?_⟩, ?_⟩
        · cases m with
          | zero => exact absurd (completes_zero_iff.1 hm) hcounts
          | succ m =>
              exact Nat.succ_le_succ (hleast ((completes_cons_iff hkind hold hnew).1 hm))
        · rw [htake]
          rfl
      · refine .inr ⟨fun m hm => ?_, i + 1, e, hfirst.cons hkind hold hnew, ?_⟩
        · cases m with
          | zero => exact hcounts (completes_zero_iff.1 hm)
          | succ m => exact hnone m ((completes_cons_iff hkind hold hnew).1 hm)
        · rw [htake]
          rfl

end

/-! ## Hunks -/

/-- The hunk after an accepted header at line `number`. There is one exactly if the lines have some
first part of body lines with the declared counts; the body is the shortest of these and the markers
that follow it. If there is none, the first line that is missing or of no kind is a truncated hunk,
said of the header, and the first line too many on one side is said of itself. -/
theorem takeHunk_extent {line : String} {header : HunkHeader}
    (h : HunkHeader.parse? line = some header) (number : Nat) (rest : List String) :
    ((∃ taken, takeHunk number line rest = .ok taken) ↔
      ∃ k, Completes header.old.count.toNat header.new.count.toNat rest k) ∧
    (∀ k, IsLeast {k | Completes header.old.count.toNat header.new.count.toNat rest k} k →
      takeHunk number line rest =
        .ok (⟨header, rest.take k ++ (rest.drop k).takeWhile isMarker⟩,
          (rest.drop k).dropWhile isMarker)) ∧
    ((∀ k, ¬ Completes header.old.count.toNat header.new.count.toNat rest k) →
      (∃ i e, FirstBreak number (number + 1) header.old.count.toNat header.new.count.toNat
        rest i e) ∧
      ∀ i e, FirstBreak number (number + 1) header.old.count.toNat header.new.count.toNat
        rest i e → takeHunk number line rest = .error e) := by
  have houtcome := takeBody_outcome number (number + 1) header.old.count.toNat
    header.new.count.toNat rest
  simp only [takeHunk, h]
  rcases houtcome with ⟨k, hleast, htake⟩ | ⟨hnone, i, e, hfirst, htake⟩
  · rw [htake]
    refine ⟨iff_of_true ⟨_, rfl⟩ ⟨k, hleast.1⟩, fun m hm => ?_, fun hnone => ?_⟩
    · obtain rfl := hleast.unique hm
      rfl
    · exact absurd hleast.1 (hnone k)
  · rw [htake]
    refine ⟨iff_of_false (by simp [Except.map]) (by simpa using hnone), fun m hm => ?_,
      fun _ => ⟨⟨i, e, hfirst⟩, fun j other hother => ?_⟩⟩
    · exact absurd hm.1 (hnone m)
    · rw [hfirst.unique hother]
      rfl

/-- A removed line that looks like a header line and a marker among the counted lines, and lines of
which the third is one too many on the new side. -/
theorem takeHunk_extent_twoOldOneNew :
    HunkHeader.parse? "@@ -1,2 +1 @@" = some ⟨⟨1, 2⟩, ⟨1, 1⟩, ""⟩ ∧
      takeHunk 7 "@@ -1,2 +1 @@" ["--- x", "\\ mark", " y", "\\ end", "-z"] =
        .ok (⟨⟨⟨1, 2⟩, ⟨1, 1⟩, ""⟩, ["--- x", "\\ mark", " y", "\\ end"]⟩, ["-z"]) ∧
      takeHunk 7 "@@ -1,2 +1 @@" ["+a", "-b", "", "c"] = .error (.hunkOverflow 10) := by
  have hheader : HunkHeader.parse? "@@ -1,2 +1 @@" = some ⟨⟨1, 2⟩, ⟨1, 1⟩, ""⟩ := by
    decide +kernel
  refine ⟨hheader, ?_, ?_⟩
  · refine (takeHunk_extent hheader 7 _).2.1 3 ⟨by decide +kernel, fun k hk => ?_⟩
    by_contra hlt
    rw [Nat.not_le] at hlt
    have hnone : ∀ k < 3, ¬ Completes 2 1 ["--- x", "\\ mark", " y", "\\ end", "-z"] k := by
      decide +kernel
    exact hnone k hlt hk
  · have hnone : ∀ k < 5, ¬ Completes 2 1 ["+a", "-b", "", "c"] k := by decide +kernel
    refine ((takeHunk_extent hheader 7 _).2.2 fun k hk => ?_).2 2 _
      ⟨.overflow rfl (by decide) (.inr (by decide)), fun j hj other hother => ?_⟩
    · exact hnone k (Nat.lt_succ_of_le hk.within) hk
    · have hadded : LineKind.ofLine? "+a" = some .added := by decide
      have hremoved : LineKind.ofLine? "-b" = some .removed := by decide
      match j with
      | 0 => exact not_breaks_cons_zero hadded (by decide) (by decide) hother
      | 1 =>
          exact not_breaks_cons_zero hremoved (by decide) (by decide)
            ((breaks_cons_iff hadded (by decide) (by decide)).1 hother)

end Changesets.Diff
