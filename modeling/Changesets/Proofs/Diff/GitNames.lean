import Changesets.Diff.GitHeader
import Changesets.Proofs.Text.Search
import Mathlib.Data.List.Basic

/-!
The names that an extended header gives. An operand with one path under the prefixes `a/` and `b/`
has no other cut of that kind, and one with the same path twice has none at all, so both are cut
where they were put together, whatever the path holds. Later lines of the header leave the names as
they are unless they begin as one of six.
-/
namespace Changesets.Diff.GitHeader

/-! ## Operands -/

theorem find?_eq_some_of_unique {α : Type} {p : α → Bool} {xs : List α} {x : α} (hx : x ∈ xs)
    (hp : p x) (hunique : ∀ y ∈ xs, p y → y = x) : xs.find? p = some x := by
  cases hfind : xs.find? p with
  | none => exact absurd hp (List.find?_eq_none.1 hfind x hx)
  | some y => rw [hunique y (List.mem_of_find?_eq_some hfind) (List.find?_some hfind)]

theorem mem_candidates {operand : List Char} {names : List Char × List Char} :
    names ∈ candidates operand ↔
      ∃ old path, operand = old ++ ' ' :: 'b' :: '/' :: path ∧
        names = (old, 'b' :: '/' :: path) := by
  have hspace : " b/".toList = [' ', 'b', '/'] := by decide
  have hnew : "b/".toList = ['b', '/'] := by decide
  simp only [candidates, hspace, hnew, List.mem_map, Prod.exists, Text.mem_cuts, List.append_assoc,
    List.cons_append, List.nil_append]
  constructor
  · rintro ⟨old, path, hoperand, rfl⟩
    exact ⟨old, path, hoperand, rfl⟩
  · rintro ⟨old, path, hoperand, rfl⟩
    exact ⟨old, path, hoperand, rfl⟩

theorem samePath_iff {old path : List Char} :
    samePath (old, 'b' :: '/' :: path) ↔ old = 'a' :: '/' :: path := by
  have hold : "a/".toList = ['a', '/'] := by decide
  have hnew : Text.afterPrefix? "b/".toList ('b' :: '/' :: path) = some path :=
    Text.afterPrefix?_append ['b', '/'] path
  rw [samePath, hnew, hold]
  cases h : Text.afterPrefix? ['a', '/'] old with
  | none =>
      simp only [Bool.false_eq_true, false_iff]
      rintro rfl
      simp [Text.afterPrefix?] at h
  | some rest =>
      obtain rfl := Text.afterPrefix?_eq_some.1 h
      simp

theorem splitOperand?_of_unquoted {operand : List Char} (h : operand.head? ≠ some '"') :
    splitOperand? operand = ((candidates operand).find? samePath).or
      ((equalHalves? operand).or (candidates operand).head?) := by
  rw [splitOperand?]
  rintro rest rfl
  exact h List.head?_cons

/-- An operand of one path with both prefixes is cut between the two. -/
theorem splitOperand?_prefixed (path : List Char) :
    splitOperand? ('a' :: '/' :: (path ++ ' ' :: 'b' :: '/' :: path)) =
      some ('a' :: '/' :: path, 'b' :: '/' :: path) := by
  have hfind : (candidates ('a' :: '/' :: (path ++ ' ' :: 'b' :: '/' :: path))).find? samePath =
      some ('a' :: '/' :: path, 'b' :: '/' :: path) := by
    refine find?_eq_some_of_unique (mem_candidates.2 ⟨_, path, rfl, rfl⟩) (samePath_iff.2 rfl) ?_
    intro names hnames hsame
    obtain ⟨old, other, hoperand, rfl⟩ := mem_candidates.1 hnames
    obtain rfl := samePath_iff.1 hsame
    -- both cuts are in the middle, since what is on their sides has one length
    have hlength : path.length = other.length := by
      have := congrArg List.length hoperand
      simp only [List.length_cons, List.length_append] at this
      omega
    simp only [List.cons_append, List.cons.injEq, true_and] at hoperand
    rw [(List.append_inj hoperand hlength).1]
  rw [splitOperand?_of_unquoted (by simp), hfind, Option.some_or]

/-- An operand of one path twice is cut between the two. -/
theorem splitOperand?_halves {path : List Char} (hne : path ≠ []) (hquote : path.head? ≠ some '"') :
    splitOperand? (path ++ ' ' :: path) = some (path, path) := by
  have hfind : (candidates (path ++ ' ' :: path)).find? samePath = none := by
    rw [List.find?_eq_none]
    intro names hnames hsame
    obtain ⟨old, other, hoperand, rfl⟩ := mem_candidates.1 hnames
    obtain rfl := samePath_iff.1 hsame
    have hlength : path.length = ('a' :: '/' :: other).length := by
      have := congrArg List.length hoperand
      simp only [List.length_cons, List.length_append] at this ⊢
      omega
    obtain ⟨hold, hnew⟩ := List.append_inj hoperand hlength
    rw [hold] at hnew
    simp at hnew
  have hhalves : equalHalves? (path ++ ' ' :: path) = some (path, path) := by
    refine find?_eq_some_of_unique (Text.mem_cuts.2 (by simp)) (by simpa using hne) ?_
    intro names hnames hequal
    obtain ⟨old, new⟩ := names
    have hoperand := Text.mem_cuts.1 hnames
    simp only [Bool.and_eq_true, beq_iff_eq] at hequal
    obtain rfl := hequal.2
    have hlength : path.length = old.length := by
      have := congrArg List.length hoperand
      simp only [List.length_cons, List.length_append, List.length_nil] at this
      omega
    rw [List.append_assoc] at hoperand
    rw [(List.append_inj hoperand hlength).1]
  have hunquoted : (path ++ ' ' :: path).head? ≠ some '"' := by
    rwa [List.head?_append_of_ne_nil _ hne]
  rw [splitOperand?_of_unquoted hunquoted, hfind, hhalves, Option.none_or, Option.some_or]

theorem namesOfFirst?_of_splitOperand? {old new : String}
    (h : splitOperand? (old ++ " " ++ new).toList = some (old.toList, new.toList)) :
    namesOfFirst? ("diff --git " ++ (old ++ " " ++ new)) = some (old, new) := by
  simp only [namesOfFirst?, Text.dropStart?_append, Option.bind_eq_bind, Option.bind_some, h,
    String.ofList_toList]
  rfl

theorem namesOfFirst?_prefixed (path : String) :
    namesOfFirst? ("diff --git " ++ ("a/" ++ path ++ " " ++ ("b/" ++ path))) =
      some ("a/" ++ path, "b/" ++ path) :=
  namesOfFirst?_of_splitOperand? (by simpa using splitOperand?_prefixed path.toList)

theorem namesOfFirst?_bare {path : String} (hne : path ≠ "")
    (hquote : Text.startsWith "\"" path = false) :
    namesOfFirst? ("diff --git " ++ (path ++ " " ++ path)) = some (path, path) := by
  apply namesOfFirst?_of_splitOperand?
  have hne' : path.toList ≠ [] := fun hnil => hne (String.toList_injective (by simpa using hnil))
  have hquote' : path.toList.head? ≠ some '"' := by
    intro hhead
    simp [(Text.startsWith_iff_head? (by decide : "\"".toList = ['"'])).2 hhead] at hquote
  simpa using splitOperand?_halves hne' hquote'

/-! ## Later lines -/

/-- How the extended header lines begin that say a path. -/
def pathStarts : List String :=
  ["rename from ", "copy from ", "rename to ", "copy to "]

/-- An extended header line that says nothing of the names. -/
def SaysNoName (line : String) : Prop :=
  ∀ start ∈ pathStarts ++ ["new file mode ", "deleted file mode "],
    Text.startsWith start line = false

instance (line : String) : Decidable (SaysNoName line) :=
  inferInstanceAs (Decidable (∀ start ∈ _, _))

theorem refine_of_no_path {line : String}
    (h : ∀ start ∈ pathStarts, Text.startsWith start line = false) (names : String × String) :
    refine names line =
      if Text.startsWith "new file mode " line then (devNull, names.2)
      else if Text.startsWith "deleted file mode " line then (names.1, devNull)
      else names := by
  simp only [pathStarts, List.forall_mem_cons, ← Text.dropStart?_eq_none] at h
  obtain ⟨hfrom, hcopyFrom, hto, hcopyTo, -⟩ := h
  rw [refine, hfrom, hcopyFrom, hto, hcopyTo]
  rfl

theorem refine_newFile (mode : String) (names : String × String) :
    refine names ("new file mode " ++ mode) = (devNull, names.2) := by
  have hpath : ∀ start ∈ pathStarts, Text.startsWith start ("new file mode " ++ mode) = false :=
    Text.startsWith_eq_false_of_forall (Text.startsWith_append _ _) (by decide)
  rw [refine_of_no_path hpath, if_pos (Text.startsWith_append _ _)]

theorem refine_deletedFile (mode : String) (names : String × String) :
    refine names ("deleted file mode " ++ mode) = (names.1, devNull) := by
  have hother : ∀ start ∈ pathStarts ++ ["new file mode "],
      Text.startsWith start ("deleted file mode " ++ mode) = false :=
    Text.startsWith_eq_false_of_forall (Text.startsWith_append _ _) (by decide)
  rw [List.forall_mem_append] at hother
  rw [refine_of_no_path hother.1, hother.2 _ (List.mem_singleton_self _),
    if_neg Bool.false_ne_true, if_pos (Text.startsWith_append _ _)]

theorem refine_of_saysNoName {line : String} (h : SaysNoName line) (names : String × String) :
    refine names line = names := by
  rw [SaysNoName, List.forall_mem_append] at h
  rw [refine_of_no_path h.1, h.2 "new file mode " (by simp), h.2 "deleted file mode " (by simp),
    if_neg Bool.false_ne_true, if_neg Bool.false_ne_true]

theorem foldl_refine_of_saysNoName {lines : List String} (h : ∀ line ∈ lines, SaysNoName line)
    (names : String × String) : lines.foldl refine names = names := by
  induction lines with
  | nil => rfl
  | cons line lines ih =>
      rw [List.forall_mem_cons] at h
      rw [List.foldl_cons, refine_of_saysNoName h.1, ih h.2]

end Changesets.Diff.GitHeader
