import Changesets.Text.Search

/-!
What the searches of `Text` find, said of the texts themselves: a prefix by an append, and the first
occurrence of a separator by a text before it in which no occurrence begins.
-/
namespace Changesets.Text

theorem startsWith_iff {start text : String} :
    startsWith start text ↔ start.toList <+: text.toList := by
  rw [startsWith, List.isPrefixOf_iff_prefix]

theorem dropStart?_eq_some {start text rest : String} :
    dropStart? start text = some rest ↔ text = start ++ rest := by
  rw [dropStart?, Option.map_eq_some_iff]
  constructor
  · intro hspec
    obtain ⟨cs, h, rfl⟩ := hspec
    rw [afterPrefix?_eq_some] at h
    exact String.toList_injective (by simp [h])
  · intro heq
    subst heq
    exact ⟨rest.toList, by simp, String.ofList_toList⟩

@[simp] theorem dropStart?_append (start rest : String) :
    dropStart? start (start ++ rest) = some rest :=
  dropStart?_eq_some.2 rfl

@[simp] theorem startsWith_append (start rest : String) : startsWith start (start ++ rest) := by
  simp [startsWith_iff]

theorem dropStart?_eq_none {start text : String} :
    dropStart? start text = none ↔ startsWith start text = false := by
  cases h : dropStart? start text with
  | some rest =>
      obtain rfl := dropStart?_eq_some.1 h
      simp [startsWith_append start rest]
  | none =>
      simp only [true_iff, Bool.eq_false_iff]
      intro hs
      obtain ⟨cs, hcs⟩ := startsWith_iff.1 hs
      have : dropStart? start text = some (String.ofList cs) :=
        dropStart?_eq_some.2 (String.toList_injective (by simp [hcs]))
      simp [h] at this

@[simp] theorem withoutStart_append (start rest : String) :
    withoutStart start (start ++ rest) = rest := by
  rw [withoutStart, dropStart?_append, Option.getD_some]

theorem append_withoutStart {start text : String} (h : startsWith start text) :
    start ++ withoutStart start text = text := by
  cases hrest : dropStart? start text with
  | none => cases h.symm.trans (dropStart?_eq_none.1 hrest)
  | some rest =>
      obtain rfl := dropStart?_eq_some.1 hrest
      rw [withoutStart_append]

theorem withoutStart_eq_self {start text : String} (h : startsWith start text = false) :
    withoutStart start text = text := by
  rw [withoutStart, dropStart?_eq_none.2 h, Option.getD_none]

theorem withoutStart_eq_iff {start text rest : String} :
    withoutStart start text = rest ↔
      text = start ++ rest ∨ text = rest ∧ startsWith start rest = false := by
  constructor
  · intro h
    subst h
    cases hstart : startsWith start text with
    | true => exact .inl (append_withoutStart hstart).symm
    | false =>
        rw [withoutStart_eq_self hstart]
        exact .inr ⟨rfl, hstart⟩
  · intro hspec
    rcases hspec with rfl | ⟨rfl, hstart⟩
    · exact withoutStart_append start rest
    · exact withoutStart_eq_self hstart

/-- Two prefixes of one text cannot differ where both have a character. -/
theorem startsWith_eq_false {start other text : String} (h : startsWith start text)
    (hne : ¬ start.toList <+: other.toList ∧ ¬ other.toList <+: start.toList) :
    startsWith other text = false := by
  rw [Bool.eq_false_iff]
  intro ho
  rcases List.prefix_or_prefix_of_prefix (startsWith_iff.1 h) (startsWith_iff.1 ho) with hp | hp
  · exact hne.1 hp
  · exact hne.2 hp

theorem startsWith_iff_head? {start text : String} {c : Char} (hstart : start.toList = [c]) :
    startsWith start text ↔ text.toList.head? = some c := by
  rw [startsWith_iff, hstart, List.head?_eq_some_iff]
  exact exists_congr fun rest => eq_comm

theorem startsWith_eq_false_of_forall {start text : String} (h : startsWith start text)
    {others : List String} (hne : ∀ other ∈ others,
      ¬ start.toList <+: other.toList ∧ ¬ other.toList <+: start.toList) :
    ∀ other ∈ others, startsWith other text = false :=
  fun other hother => startsWith_eq_false h (hne other hother)

theorem contains_iff {piece text : String} :
    contains piece text ↔ piece.toList <:+: text.toList := by
  have some_cut : (cuts piece.toList text.toList ≠ []) ↔ piece.toList <:+: text.toList := by
    constructor
    · intro h
      obtain ⟨⟨before, after⟩, hmem⟩ := List.exists_mem_of_ne_nil _ h
      exact ⟨before, after, (mem_cuts.1 hmem).symm⟩
    · intro hspec
      obtain ⟨before, after, h⟩ := hspec
      exact List.ne_nil_of_mem (mem_cuts.2 h.symm)
  rw [contains, occursIn, ← some_cut]
  simp

/-! ## First occurrences -/

/-- The first cut is at the separator if no occurrence begins before it. An occurrence may overlap
the separator itself, so the condition speaks of the whole text. -/
theorem head?_cuts {separator after : List Char} (hne : separator ≠ []) {before : List Char}
    (h : ∀ pre c post, before = pre ++ c :: post →
      afterPrefix? separator (c :: post ++ separator ++ after) = none) :
    (cuts separator (before ++ separator ++ after)).head? = some (before, after) := by
  induction before with
  | nil =>
      obtain ⟨s, ss, rfl⟩ := List.exists_cons_of_ne_nil hne
      have here := afterPrefix?_append (s :: ss) after
      simp only [List.nil_append, List.cons_append] at here ⊢
      rw [cuts, here]
      rfl
  | cons c before ih =>
      have here := h [] c before rfl
      simp only [List.cons_append] at here ⊢
      rw [cuts, here]
      have later := ih fun pre d post hb => h (c :: pre) d post (by rw [hb, List.cons_append])
      rw [List.head?_map, later]
      rfl

theorem head?_cuts_of_notMem {s : Char} {r before : List Char} (h : s ∉ before)
    (after : List Char) :
    (cuts (s :: r) (before ++ (s :: r) ++ after)).head? = some (before, after) := by
  apply head?_cuts (List.cons_ne_nil s r)
  intro pre c post hb
  have hc : s ≠ c := fun e => h (by simp [hb, e])
  simp [afterPrefix?, hc]

/-- As above where only the second character of the separator is missing before it. -/
theorem head?_cuts_of_second_notMem {s t : Char} {r before : List Char} (hst : t ≠ s)
    (h : t ∉ before) (after : List Char) :
    (cuts (s :: t :: r) (before ++ (s :: t :: r) ++ after)).head? = some (before, after) := by
  apply head?_cuts (List.cons_ne_nil s _)
  intro pre c post hb
  by_cases hc : s = c
  · cases post with
    | nil => simp [afterPrefix?, hc, hc ▸ hst]
    | cons d post =>
        have hd : t ≠ d := fun e => h (by simp [hb, e])
        simp [afterPrefix?, hd]
  · simp [afterPrefix?, hc]

theorem head?_cuts_eq_none {separator cs : List Char} :
    (cuts separator cs).head? = none ↔ ¬ separator <:+: cs := by
  rw [List.head?_eq_none_iff, List.eq_nil_iff_forall_not_mem]
  constructor
  · intro h cut
    obtain ⟨before, after, hcs⟩ := cut
    exact h (before, after) (mem_cuts.2 hcs.symm)
  · intro h cut hmem
    obtain ⟨before, after⟩ := cut
    exact h ⟨before, after, (mem_cuts.1 hmem).symm⟩

theorem notMem_of_head?_cuts {s : Char} {cs before after : List Char}
    (h : (cuts [s] cs).head? = some (before, after)) : s ∉ before := by
  intro hs
  obtain ⟨pre, post, rfl, hpre⟩ := List.eq_append_cons_of_mem hs
  have hcs := mem_cuts.1 (List.mem_of_mem_head? h)
  have first := head?_cuts_of_notMem (r := []) hpre (post ++ [s] ++ after)
  rw [hcs] at h
  simp only [List.append_assoc, List.cons_append, List.nil_append] at h first
  rw [h] at first
  simp at first

theorem splitFirst?_eq_some {separator text before after : String} :
    splitFirst? separator text = some (before, after) ↔
      (cuts separator.toList text.toList).head? = some (before.toList, after.toList) := by
  rw [splitFirst?, Option.map_eq_some_iff]
  constructor
  · intro hspec
    obtain ⟨⟨b, a⟩, h, he⟩ := hspec
    cases he
    simpa using h
  · intro h
    exact ⟨_, h, by simp⟩

theorem splitFirst?_eq_none {separator text : String} :
    splitFirst? separator text = none ↔ ¬ separator.toList <:+: text.toList := by
  rw [splitFirst?, Option.map_eq_none_iff, head?_cuts_eq_none]

end Changesets.Text
