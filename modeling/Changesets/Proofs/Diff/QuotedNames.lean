import Changesets.Proofs.Diff.HeaderOnly

/-!
Operands of two quoted names. The old name is cut at the first quote that a space follows, and a
quote inside the name is escaped, so the cut is right exactly if no space follows the first quote
or one that is escaped. A name that is cut wrongly is no error.
-/
namespace Changesets.Text

/-- No other cut has less before it than the first. -/
theorem length_le_of_head?_cuts {separator cs before after : List Char}
    (h : (cuts separator cs).head? = some (before, after)) {b a : List Char}
    (hmem : (b, a) ∈ cuts separator cs) : before.length ≤ b.length := by
  induction cs generalizing before b with
  | nil =>
      rw [cuts] at h hmem
      split at h <;> simp_all
  | cons c cs ih =>
      rw [cuts] at h hmem
      cases hhere : afterPrefix? separator (c :: cs) with
      | some rest =>
          simp only [hhere, List.head?_cons, Option.some.injEq, Prod.mk.injEq] at h
          simp [← h.1]
      | none =>
          simp only [hhere] at h hmem
          obtain ⟨⟨x, y⟩, hxy, hcut⟩ := List.mem_map.1 hmem
          rw [List.head?_map, Option.map_eq_some_iff] at h
          obtain ⟨⟨first, rest⟩, hfirst, hbefore⟩ := h
          cases hcut
          cases hbefore
          exact Nat.succ_le_succ (ih hfirst hxy)

theorem not_infix_of_head?_cuts {separator cs before after : List Char} (hne : separator ≠ [])
    (h : (cuts separator cs).head? = some (before, after)) : ¬ separator <:+: before := by
  intro hinfix
  obtain ⟨pre, post, rfl⟩ := hinfix
  have hcs := mem_cuts.1 (List.mem_of_mem_head? h)
  have hmem : (pre, post ++ separator ++ after) ∈ cuts separator cs :=
    mem_cuts.2 (by simp [hcs])
  have hlength := length_le_of_head?_cuts h hmem
  have hpos := List.length_pos_of_ne_nil hne
  simp only [List.length_append] at hlength
  omega

end Changesets.Text

namespace Changesets.Diff

/-- What may stand between the quotes of a name: a quote and a backslash only after a backslash. -/
inductive QuotedBody : List Char → Prop
  | nil : QuotedBody []
  | plain {c : Char} {body : List Char} : c ≠ '\n' → c ≠ '"' → c ≠ '\\' → QuotedBody body →
      QuotedBody (c :: body)
  | escaped {c : Char} {body : List Char} : c ≠ '\n' → QuotedBody body →
      QuotedBody ('\\' :: c :: body)

def quotedName (body : List Char) : String :=
  String.ofList ('"' :: (body ++ ['"']))

theorem QuotedBody.plain_append {body : List Char} (cs : List Char)
    (hcs : ∀ c ∈ cs, c ≠ '\n' ∧ c ≠ '"' ∧ c ≠ '\\') (h : QuotedBody body) :
    QuotedBody (cs ++ body) := by
  induction cs with
  | nil => exact h
  | cons c cs ih =>
      rw [List.forall_mem_cons] at hcs
      exact .plain hcs.1.1 hcs.1.2.1 hcs.1.2.2 (ih hcs.2)

theorem QuotedBody.infix_escaped {body : List Char} (h : QuotedBody body)
    (hquote : ['"', ' '] <:+: body) : ['\\', '"', ' '] <:+: body := by
  induction h with
  | nil => simp at hquote
  | @plain c body _ hc _ _ ih =>
      rw [List.infix_cons_iff, List.cons_prefix_cons] at hquote
      rcases hquote with ⟨rfl, -⟩ | hlater
      · exact absurd rfl hc
      · exact (ih hlater).trans (List.suffix_cons c body).isInfix
  | @escaped c body _ _ ih =>
      rw [List.infix_cons_iff, List.infix_cons_iff] at hquote
      rcases hquote with hhere | hnext | hlater
      · simp at hhere
      · exact (List.cons_prefix_cons.2 ⟨rfl, hnext⟩).isInfix
      · exact (ih hlater).trans ⟨['\\', c], [], by simp⟩

/-- A space after the first quote or after an escaped one. -/
theorem QuotedBody.infix_cons_quote_iff {body : List Char} (h : QuotedBody body) :
    ['"', ' '] <:+: '"' :: body ↔ body.head? = some ' ' ∨ ['\\', '"', ' '] <:+: body := by
  rw [List.infix_cons_iff, List.cons_prefix_cons]
  refine or_congr ?_ ⟨h.infix_escaped, fun hescaped => ?_⟩
  · cases body <;> simp [eq_comm]
  · exact (List.suffix_cons '\\' ['"', ' ']).isInfix.trans hescaped

namespace GitHeader

/-- The operand is cut after the closing quote exactly if no earlier quote is before a space. -/
theorem splitOperand?_quoted_iff (body other : List Char) :
    splitOperand? ('"' :: (body ++ '"' :: ' ' :: other)) = some ('"' :: (body ++ ['"']), other) ↔
      ¬ ['"', ' '] <:+: '"' :: body := by
  have hoperand : '"' :: (body ++ '"' :: ' ' :: other) =
      '"' :: body ++ ['"', ' '] ++ other := by simp
  rw [splitOperand?, hoperand, Option.map_eq_some_iff]
  constructor
  · intro h
    obtain ⟨⟨before, after⟩, hcut, hnames⟩ := h
    simp only [Prod.mk.injEq] at hnames
    have hbefore : before = '"' :: body := List.append_cancel_right hnames.1
    exact hbefore ▸ Text.not_infix_of_head?_cuts (by simp) hcut
  · intro h
    refine ⟨('"' :: body, other), Text.head?_cuts (by simp) ?_, rfl⟩
    intro pre c post hbody
    rw [hbody] at h
    rw [Option.eq_none_iff_forall_ne_some]
    intro rest hrest
    have hstart := Text.afterPrefix?_eq_some.1 hrest
    simp only [List.cons_append, List.cons.injEq] at hstart
    obtain ⟨rfl, hpost⟩ := hstart
    cases post with
    | nil => simp at hpost
    | cons d post =>
        obtain ⟨rfl, -⟩ := List.cons.inj hpost
        exact h ⟨pre, post, by simp⟩

theorem namesOfFirst?_eq_some_iff {operand old new : String} :
    namesOfFirst? ("diff --git " ++ operand) = some (old, new) ↔
      splitOperand? operand.toList = some (old.toList, new.toList) := by
  simp only [namesOfFirst?, Text.dropStart?_append, Option.bind_eq_bind, Option.bind_some]
  cases splitOperand? operand.toList with
  | none => simp
  | some names =>
      obtain ⟨first, second⟩ := names
      simp only [Option.bind_some, pure, Option.some.injEq, Prod.mk.injEq]
      constructor
      · rintro ⟨rfl, rfl⟩
        exact ⟨String.toList_ofList.symm, String.toList_ofList.symm⟩
      · rintro ⟨rfl, rfl⟩
        exact ⟨String.ofList_toList, String.ofList_toList⟩

theorem names_quoted_iff {body : List Char} (hbody : QuotedBody body) (other : String)
    {later : List String} (hlater : ∀ line ∈ later, SaysNoName line) :
    names (("diff --git " ++ (quotedName body ++ " " ++ other)) :: later) =
        (quotedName body, other) ↔
      body.head? ≠ some ' ' ∧ ¬ ['\\', '"', ' '] <:+: body := by
  have hoperand : (quotedName body ++ " " ++ other).toList =
      '"' :: (body ++ '"' :: ' ' :: other.toList) := by simp [quotedName]
  have hname : (quotedName body).toList = '"' :: (body ++ ['"']) := by simp [quotedName]
  rw [← not_or, ← hbody.infix_cons_quote_iff, ← splitOperand?_quoted_iff body other.toList,
    ← hoperand, ← hname, ← namesOfFirst?_eq_some_iff, names, foldl_refine_of_saysNoName hlater]
  cases namesOfFirst? ("diff --git " ++ (quotedName body ++ " " ++ other)) with
  | none =>
      -- without a cut both names would be empty, which no quoted name is
      have hne : quotedName body ≠ "" := fun hempty => by simp [hempty] at hname
      simp [hne.symm]
  | some names => simp

end GitHeader

/-- The names are cut between the two exactly if in the old name no space follows the first quote or
an escaped one. -/
theorem parse_quotedNames_iff {body : List Char} (hbody : QuotedBody body) (other : String)
    {later : List String} (hlater : ∀ line ∈ later, Change.IsDetail line) {text : String}
    (htext : Text.lines text =
      ("diff --git " ++ (quotedName body ++ " " ++ other)) :: later) :
    ∃ file, parse text = .ok [file] ∧ file.hasHeader = false ∧
      (file.old.name = quotedName body ∧ file.new.name = other ↔
        body.head? ≠ some ' ' ∧ ¬ ['\\', '"', ' '] <:+: body) := by
  have hfirst := Change.startsWith_diff_first (quotedName body ++ " " ++ other)
  have htail : ExtendedTail later [] := by
    simpa using Change.extendedTail_append
      (fun line hline => ⟨(hlater line hline).continues, (hlater line hline).textual⟩)
      (⟨by simp, by simp, by simp, fun _ => rfl⟩ : ExtendedTail [] [])
  refine ⟨_, parse_headerOnly hfirst htail (by rw [htext, List.append_nil]), rfl, ?_⟩
  rw [← GitHeader.names_quoted_iff hbody other fun line hline => (hlater line hline).nameless,
    ← Prod.mk.injEq]
  rfl

def modeLines : List String :=
  ["old mode 100644", "new mode 100755"]

/-- In the new name a space may follow an escaped quote. -/
theorem parse_quotedNames_spaceInNew :
    QuotedBody "a/x\\\"y".toList ∧ QuotedBody "b/x\\\" y".toList ∧
      (∀ line ∈ modeLines, Change.IsDetail line) ∧
      ∃ file, parse (Text.unlines
          ("diff --git \"a/x\\\"y\" \"b/x\\\" y\"" :: modeLines)) = .ok [file] ∧
        file.old.name = "\"a/x\\\"y\"" ∧ file.new.name = "\"b/x\\\" y\"" := by
  have hold : QuotedBody "a/x\\\"y".toList :=
    .plain_append "a/x".toList (by simp)
      (.escaped (by decide) (.plain_append ['y'] (by simp) .nil))
  have hnew : QuotedBody "b/x\\\" y".toList :=
    .plain_append "b/x".toList (by simp)
      (.escaped (by decide) (.plain_append [' ', 'y'] (by simp) .nil))
  have hlater : ∀ line ∈ modeLines, Change.IsDetail line := by decide +kernel
  have htext : Text.lines (Text.unlines
      ("diff --git \"a/x\\\"y\" \"b/x\\\" y\"" :: modeLines)) =
      ("diff --git " ++ (quotedName "a/x\\\"y".toList ++ " " ++ quotedName "b/x\\\" y".toList)) ::
        modeLines := by decide +kernel
  obtain ⟨file, hparse, -, hnames⟩ := parse_quotedNames_iff hold _ hlater htext
  obtain ⟨holdName, hnewName⟩ := hnames.2 (by decide)
  exact ⟨hold, hnew, hlater, file, hparse, holdName, hnewName⟩

/-- With an escaped quote before a space in the old name, the rest of that name and the new name
are read as one. -/
theorem not_names_spaceInOld :
    QuotedBody "a/x\\\" y".toList ∧ QuotedBody "b/x\\\" y".toList ∧
      ∃ file, parse (Text.unlines
          ("diff --git \"a/x\\\" y\" \"b/x\\\" y\"" :: modeLines)) = .ok [file] ∧
        file.old.name = "\"a/x\\\"" ∧ file.new.name = "y\" \"b/x\\\" y\"" ∧
        ¬ (file.old.name = quotedName "a/x\\\" y".toList ∧
          file.new.name = quotedName "b/x\\\" y".toList) := by
  refine ⟨.plain_append "a/x".toList (by simp)
      (.escaped (by decide) (.plain_append [' ', 'y'] (by simp) .nil)),
    .plain_append "b/x".toList (by simp)
      (.escaped (by decide) (.plain_append [' ', 'y'] (by simp) .nil)), ?_⟩
  refine ⟨{ extended := "diff --git \"a/x\\\" y\" \"b/x\\\" y\"" :: modeLines
            old := ⟨"\"a/x\\\"", none⟩
            new := ⟨"y\" \"b/x\\\" y\"", none⟩ }, ?_, rfl, rfl, ?_⟩
  · exact parse_of_denotes (by decide +kernel)
      (denotes_lines_unlines (by decide +kernel) .nil (by decide +kernel))
  · decide

end Changesets.Diff
