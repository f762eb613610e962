import Changesets.Diff.Hunk
import Changesets.Proofs.Decimal
import Changesets.Proofs.Text.Search
import Mathlib.Data.List.Infix

/-!
The spellings of a hunk header. A number may have a sign and zeros before it, a count of one may be
left out, and one space before the heading does not belong to it. `HunkHeader.parse?_eq_some_iff`
says that the reader accepts exactly the spellings and what it takes each for; a written header is
the full one among its own spellings, whatever its heading.
-/
namespace Changesets

namespace Diff

/-! ## Ranges -/

/-- A spelling of the range: both numbers with a comma between them, or the first one alone where
the second is one. -/
inductive Range.Spells : List Char → Range → Prop
  | short {cs : List Char} {start : UInt64} :
      Decimal.Spells cs start.toNat → Range.Spells cs ⟨start, 1⟩
  | full {cs ds : List Char} {range : Range} :
      Decimal.Spells cs range.start.toNat → Decimal.Spells ds range.count.toNat →
        Range.Spells (cs ++ ',' :: ds) range

theorem Range.spells_print (range : Range) : Range.Spells range.print.toList range := by
  rw [Range.print, String.toList_ofList]
  exact .full (Decimal.spells_digits _) (Decimal.spells_digits _)

/-- A written range has both of its numbers. -/
theorem Range.print_eq (range : Range) :
    range.print = toString range.start ++ "," ++ toString range.count := by
  have hdigits (n : UInt64) : (toString n).toList = Decimal.digits n.toNat := by
    change (toString n.toNat).toList = _
    rw [Nat.toString_eq_ofList_toDigits, String.toList_ofList, Decimal.digits]
  apply String.toList_injective
  simp [Range.print, hdigits]

theorem Range.Spells.notMem {c : Char} (hc : c.isDigit = false) (hplus : c ≠ '+')
    (hcomma : c ≠ ',') {cs : List Char} {range : Range} (h : Range.Spells cs range) : c ∉ cs := by
  cases h with
  | short hstart => exact hstart.notMem hc hplus
  | full hstart hcount => simp [hstart.notMem hc hplus, hcount.notMem hc hplus, hcomma]

theorem Range.parse?_eq_some_iff {text : String} {range : Range} :
    Range.parse? text = some range ↔ Range.Spells text.toList range := by
  have hcomma : ",".toList = [','] := by decide
  constructor
  · intro h
    rw [Range.parse?] at h
    split at h
    · next start count hcut =>
        rw [Text.splitFirst?_eq_some, hcomma] at hcut
        have htext := Text.mem_cuts.1 (List.mem_of_mem_head? hcut)
        simp only [Option.bind_eq_bind, Option.bind_eq_some_iff] at h
        obtain ⟨a, ha, b, hb, he⟩ := h
        cases he
        rw [Decimal.word?_eq_some_iff] at ha hb
        have hrange : Range.Spells _ ⟨a, b⟩ := .full ha hb
        simpa [htext] using hrange
    · next hnone =>
        obtain ⟨a, ha, rfl⟩ := Option.map_eq_some_iff.1 h
        exact .short (Decimal.word?_eq_some_iff.1 ha)
  · intro h
    generalize htext : text.toList = cs at h
    cases h with
    | @short cs start hstart =>
        have hcut : Text.splitFirst? "," text = none := by
          rw [Text.splitFirst?_eq_none, hcomma, htext, List.singleton_infix_iff]
          exact hstart.notMem (by decide) (by decide)
        simp [Range.parse?, hcut, htext, Decimal.word?_eq_some_iff.2 hstart]
    | @full cs ds range hstart hcount =>
        have hcut : Text.splitFirst? "," text = some (String.ofList cs, String.ofList ds) := by
          rw [Text.splitFirst?_eq_some, hcomma, htext]
          simpa using Text.head?_cuts_of_notMem (s := ',') (r := [])
            (hstart.notMem (by decide) (by decide)) ds
        simp [Range.parse?, hcut, Decimal.word?_eq_some_iff.2 hstart,
          Decimal.word?_eq_some_iff.2 hcount]

/-! ## Headers -/

/-- A spelling of the header. A heading that a space stands before is the same without it. -/
def HunkHeader.Spells (line : String) (header : HunkHeader) : Prop :=
  ∃ old new tail, line = "@@ -" ++ old ++ " +" ++ new ++ " @@" ++ tail ∧
    Range.Spells old.toList header.old ∧ Range.Spells new.toList header.new ∧
    (tail = " " ++ header.heading ∨
      tail = header.heading ∧ Text.startsWith " " header.heading = false)

theorem HunkHeader.spells_print (header : HunkHeader) :
    HunkHeader.Spells header.print header := by
  refine ⟨_, _, _, rfl, header.old.spells_print, header.new.spells_print, ?_⟩
  split
  · next h =>
      rw [String.isEmpty_iff] at h
      exact .inr ⟨h.symm, by rw [h]; decide⟩
  · exact .inl rfl

/-- The full spelling of the header: both numbers of either side in decimal, then a space and the
heading, or nothing more where the heading is empty. -/
inductive HunkHeader.Full : String → HunkHeader → Prop
  | plain {old new : Range} :
      HunkHeader.Full s!"@@ -{old.start},{old.count} +{new.start},{new.count} @@" ⟨old, new, ""⟩
  | headed {old new : Range} {heading : String} : heading ≠ "" →
      HunkHeader.Full s!"@@ -{old.start},{old.count} +{new.start},{new.count} @@ {heading}"
        ⟨old, new, heading⟩

theorem HunkHeader.full_print (header : HunkHeader) : HunkHeader.Full header.print header := by
  obtain ⟨old, new, heading⟩ := header
  have htext (text : String) : toString text = text := rfl
  by_cases hheading : heading = ""
  · subst hheading
    convert HunkHeader.Full.plain using 1
    simp [HunkHeader.print, Range.print_eq, htext, String.append_assoc]
  · convert HunkHeader.Full.headed hheading using 1
    have hspace : " @@" ++ (" " ++ heading) = " @@ " ++ heading := by
      rw [← String.append_assoc]
      rfl
    simp [HunkHeader.print, Range.print_eq, htext, hheading, hspace, String.append_assoc]

/-- The reader takes a line for a header exactly if the line spells it. Neither range holds a space
or an at sign, so the first separators in the line are those of the spelling, whatever is in the
heading. -/
theorem HunkHeader.parse?_eq_some_iff {line : String} {header : HunkHeader} :
    HunkHeader.parse? line = some header ↔ HunkHeader.Spells line header := by
  simp only [HunkHeader.parse?, Option.bind_eq_bind, Option.bind_eq_some_iff, Prod.exists]
  constructor
  · intro h
    obtain ⟨rest, hrest, ranges, tail, hranges, old, new, hsides, a, ha, b, hb, he⟩ := h
    cases he
    obtain rfl := Text.dropStart?_eq_some.1 hrest
    have hrest := Text.mem_cuts.1 (List.mem_of_mem_head? (Text.splitFirst?_eq_some.1 hranges))
    have hranges := Text.mem_cuts.1 (List.mem_of_mem_head? (Text.splitFirst?_eq_some.1 hsides))
    refine ⟨old, new, tail, String.toList_injective ?_, Range.parse?_eq_some_iff.1 ha,
      Range.parse?_eq_some_iff.1 hb, Text.withoutStart_eq_iff.1 rfl⟩
    simp [hrest, hranges]
  · intro hspec
    obtain ⟨old, new, tail, rfl, hold, hnew, htail⟩ := hspec
    have hranges : Text.splitFirst? " @@" (old ++ " +" ++ new ++ " @@" ++ tail) =
        some (old ++ " +" ++ new, tail) := by
      have hat : '@' ∉ (old ++ " +" ++ new).toList := by
        simp [hold.notMem (c := '@') (by decide) (by decide) (by decide),
          hnew.notMem (c := '@') (by decide) (by decide) (by decide)]
      rw [Text.splitFirst?_eq_some]
      simpa using Text.head?_cuts_of_second_notMem (s := ' ') (t := '@') (r := ['@'])
        (by decide) hat tail.toList
    have hsides : Text.splitFirst? " +" (old ++ " +" ++ new) = some (old, new) := by
      rw [Text.splitFirst?_eq_some]
      simpa using Text.head?_cuts_of_notMem (r := ['+'])
        (hold.notMem (c := ' ') (by decide) (by decide) (by decide)) new.toList
    refine ⟨old ++ " +" ++ new ++ " @@" ++ tail, ?_, _, _, hranges, _, _, hsides, _,
      Range.parse?_eq_some_iff.2 hold, _, Range.parse?_eq_some_iff.2 hnew, ?_⟩
    · simp [String.append_assoc]
    · rw [Text.withoutStart_eq_iff.2 htail]
      rfl

/-- A written header denotes itself, also where its heading holds another ` @@`. -/
theorem HunkHeader.parse?_print (header : HunkHeader) :
    HunkHeader.parse? header.print = some header :=
  HunkHeader.parse?_eq_some_iff.2 header.spells_print

end Diff

end Changesets
