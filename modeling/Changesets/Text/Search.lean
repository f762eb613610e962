/-!
Prefixes, suffixes and occurrences of one text in another. A *cut* of a text at a separator is a way
to write it as `before ++ separator ++ after`; `mem_cuts` says that `cuts` lists exactly those, and
it lists them from left to right.
-/
namespace Changesets.Text

/-- The rest of the text after the given characters at its front. -/
def afterPrefix? : List Char → List Char → Option (List Char)
  | [], cs => some cs
  | _ :: _, [] => none
  | p :: ps, c :: cs => if p = c then afterPrefix? ps cs else none

theorem afterPrefix?_eq_some {p cs r : List Char} : afterPrefix? p cs = some r ↔ cs = p ++ r := by
  induction p generalizing cs with
  | nil => simp [afterPrefix?]
  | cons a p ih =>
    cases cs with
    | nil => simp [afterPrefix?]
    | cons c cs =>
      by_cases h : a = c
      · simp [afterPrefix?, h, ih]
      · simp [afterPrefix?, h, Ne.symm h]

@[simp] theorem afterPrefix?_append (p r : List Char) : afterPrefix? p (p ++ r) = some r :=
  afterPrefix?_eq_some.2 rfl

/-- All cuts of the text at the separator, from left to right. -/
def cuts (separator : List Char) : List Char → List (List Char × List Char)
  | [] => if separator = [] then [([], [])] else []
  | c :: cs =>
    let later := (cuts separator cs).map fun (before, after) => (c :: before, after)
    match afterPrefix? separator (c :: cs) with
    | some after => ([], after) :: later
    | none => later

theorem mem_cuts {separator cs before after : List Char} :
    (before, after) ∈ cuts separator cs ↔ cs = before ++ separator ++ after := by
  induction cs generalizing before with
  | nil =>
    by_cases h : separator = [] <;> simp [cuts, h]
  | cons c cs ih =>
    have later : (before, after) ∈ (cuts separator cs).map (fun (b, a) => (c :: b, a)) ↔
        ∃ b, before = c :: b ∧ cs = b ++ separator ++ after := by
      simp only [List.mem_map, Prod.mk.injEq, Prod.exists]
      constructor
      · rintro ⟨b, a, hb, rfl, rfl⟩
        exact ⟨b, rfl, ih.1 hb⟩
      · rintro ⟨b, rfl, hb⟩
        exact ⟨b, after, ih.2 hb, rfl, rfl⟩
    have here : (before = [] ∧ afterPrefix? separator (c :: cs) = some after) ∨
        (∃ b, before = c :: b ∧ cs = b ++ separator ++ after) ↔
        c :: cs = before ++ separator ++ after := by
      rw [afterPrefix?_eq_some]
      cases before with
      | nil => simp
      | cons b bs =>
        simp only [List.cons.injEq, List.cons_append, reduceCtorEq, false_and, false_or]
        exact ⟨fun ⟨_, ⟨hb, hbs⟩, h⟩ => ⟨hb.symm, hbs ▸ h⟩, fun ⟨hb, h⟩ => ⟨bs, ⟨hb.symm, rfl⟩, h⟩⟩
    rw [← here]
    unfold cuts
    cases h : afterPrefix? separator (c :: cs) with
    | none => simp only [later]; simp
    | some rest => simp only [List.mem_cons, later]; simp [eq_comm]

/-- Whether the characters stand somewhere in the text. -/
def occursIn (piece cs : List Char) : Bool :=
  !(cuts piece cs).isEmpty

/-- Whether `text` begins with `start`. -/
def startsWith (start text : String) : Bool :=
  start.toList.isPrefixOf text.toList

/-- Whether `text` ends with `finish`. -/
def endsWith (finish text : String) : Bool :=
  finish.toList.isSuffixOf text.toList

/-- The rest of `text` after `start` at its front. -/
def dropStart? (start text : String) : Option String :=
  (afterPrefix? start.toList text.toList).map String.ofList

/-- `text` without `start` at its front, where it has that. -/
def withoutStart (start text : String) : String :=
  (dropStart? start text).getD text

/-- The parts of `text` before and after the first occurrence of the separator. -/
def splitFirst? (separator text : String) : Option (String × String) :=
  (cuts separator.toList text.toList).head?.map fun (before, after) =>
    (String.ofList before, String.ofList after)

/-- Whether `piece` stands somewhere in `text`; the empty text stands in every text. -/
def contains (piece text : String) : Bool :=
  occursIn piece.toList text.toList

end Changesets.Text
