import Changesets.Proofs.Text.Run
import Changesets.Text.Blank

/-!
Texts without the white space at their ends.
-/
namespace Changesets.Text

theorem isBlank_of_isDigit {c : Char} (h : c.isDigit) : isBlank c = false := by
  have hrange : 48 ≤ c.toNat ∧ c.toNat ≤ 57 := Char.isDigit_iff_toNat.1 h
  simp only [isBlank, Bool.or_eq_false_iff, Bool.and_eq_false_iff, decide_eq_false_iff_not,
    beq_eq_false_iff_ne]
  omega

/-- The text is the trimmed one with white space before and after it, and the trimmed one neither
begins nor ends with white space. -/
structure Trims (text trimmed : String) : Prop where
  within : ∃ before after, text.toList = before ++ trimmed.toList ++ after ∧
    (∀ c ∈ before, isBlank c) ∧ ∀ c ∈ after, isBlank c
  head : ∀ c ∈ trimmed.toList.head?, isBlank c = false
  last : ∀ c ∈ trimmed.toList.getLast?, isBlank c = false

theorem trimLeft_append {before cs : List Char} (hbefore : ∀ c ∈ before, isBlank c)
    (hcs : ∀ c ∈ cs.head?, isBlank c = false) : trimLeft (before ++ cs) = cs :=
  (takeWhile_append_of_head hbefore hcs).2

theorem exists_trimLeft (cs : List Char) :
    ∃ before, cs = before ++ trimLeft cs ∧ (∀ c ∈ before, isBlank c) ∧
      ∀ c ∈ (trimLeft cs).head?, isBlank c = false := by
  obtain ⟨hbefore, hhead⟩ := mem_takeWhile_dropWhile isBlank cs
  exact ⟨cs.takeWhile isBlank, List.takeWhile_append_dropWhile.symm, hbefore, hhead⟩

theorem trimRight_eq (cs : List Char) : trimRight cs = (trimLeft cs.reverse).reverse :=
  rfl

theorem trimRight_append {cs after : List Char} (hafter : ∀ c ∈ after, isBlank c)
    (hcs : ∀ c ∈ cs.getLast?, isBlank c = false) : trimRight (cs ++ after) = cs := by
  rw [trimRight_eq, List.reverse_append, trimLeft_append, List.reverse_reverse]
  · simpa using hafter
  · simpa using hcs

theorem exists_trimRight (cs : List Char) :
    ∃ after, cs = trimRight cs ++ after ∧ (∀ c ∈ after, isBlank c) ∧
      ∀ c ∈ (trimRight cs).getLast?, isBlank c = false := by
  obtain ⟨before, hcs, hbefore, hhead⟩ := exists_trimLeft cs.reverse
  refine ⟨before.reverse, ?_, by simpa using hbefore, by simpa [trimRight_eq] using hhead⟩
  rw [trimRight_eq, ← List.reverse_append, ← hcs, List.reverse_reverse]

theorem trims_trim (text : String) : Trims text (trim text) := by
  obtain ⟨before, hbefore, hblank, hhead⟩ := exists_trimLeft text.toList
  obtain ⟨after, hafter, hblank', hlast⟩ := exists_trimRight (trimLeft text.toList)
  have htrim : (trim text).toList = trimRight (trimLeft text.toList) := by
    rw [trim, String.toList_ofList]
  refine ⟨⟨before, after, ?_, hblank, hblank'⟩, fun c hc => ?_, ?_⟩
  · rw [htrim, List.append_assoc, ← hafter, ← hbefore]
  · apply hhead
    rw [hafter]
    rw [htrim] at hc
    simp [List.head?_append, Option.mem_def.1 hc]
  · rwa [htrim]

/-- White space alone is trimmed to nothing, and else all of it is at the two ends. -/
theorem trim_eq_iff {text trimmed : String} : trim text = trimmed ↔ Trims text trimmed := by
  constructor
  · intro h
    subst h
    exact trims_trim text
  · intro h
    obtain ⟨before, after, htext, hbefore, hafter⟩ := h.within
    apply String.toList_injective
    rw [trim, String.toList_ofList, htext]
    cases hcs : trimmed.toList with
    | nil =>
        have hleft : trimLeft (before ++ [] ++ after) = [] := by
          rw [List.append_nil, ← List.append_nil (before ++ after)]
          refine trimLeft_append ?_ (by simp)
          simpa [or_imp, forall_and] using ⟨hbefore, hafter⟩
        rw [hleft]
        rfl
    | cons c cs =>
        have hhead := h.head
        have hlast := h.last
        rw [hcs] at hhead hlast
        rw [List.append_assoc, trimLeft_append hbefore (by simpa using hhead),
          trimRight_append hafter hlast]

end Changesets.Text
