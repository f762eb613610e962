import Changesets.Glob
import Changesets.Proofs.Fallible
import Mathlib.Data.List.Infix
import Mathlib.Data.List.TakeWhile
import Mathlib.Tactic.Tauto

/-!
Which texts are globs, and which names a glob stands for. `parse_eq_ok_iff` says that reading a
pattern gives the pieces that it spells, and `matchesText_iff` that a name is matched exactly if it
can be cut into parts for which the pieces stand, one part for each piece.
-/
namespace Changesets.Glob

/-! ## Names -/

/-- What a piece may stand for where `rest` follows in the name. -/
inductive Token.StandsFor : Token → (part rest : List Char) → Prop
  | char {token : Token} {c : Char} {rest : List Char} : token.accepts c →
      token.StandsFor [c] rest
  | sequence {part rest : List Char} : StandsFor .anySequence part rest
  | noDirectory {rest : List Char} : StandsFor .anyDirectories [] rest
  | directories {part rest : List Char} : StandsFor .anyDirectories (part ++ ['/']) rest
  | wholeRest {part : List Char} : StandsFor .anyDirectories part []

inductive Matches : List Token → List Char → Prop
  | nil : Matches [] []
  | cons {token : Token} {tokens : List Token} {part rest : List Char} :
      token.StandsFor part rest → Matches tokens rest → Matches (token :: tokens) (part ++ rest)

/-- There is a mark at the place where `left` is what is left of the name. -/
inductive Marked : List Char → List Bool → (left : List Char) → Prop
  | here {cs : List Char} {marks : List Bool} : Marked cs (true :: marks) cs
  | later {c : Char} {cs : List Char} {mark : Bool} {marks : List Bool} {left : List Char} :
      Marked cs marks left → Marked (c :: cs) (mark :: marks) left

@[simp] theorem marked_nil {mark : Bool} {left : List Char} :
    Marked [] [mark] left ↔ mark ∧ left = [] := by
  constructor
  · rintro ⟨⟩
    exact ⟨rfl, rfl⟩
  · rintro ⟨rfl, rfl⟩
    exact .here

@[simp] theorem marked_cons {c : Char} {cs left : List Char} {mark : Bool} {marks : List Bool} :
    Marked (c :: cs) (mark :: marks) left ↔ mark ∧ left = c :: cs ∨ Marked cs marks left := by
  constructor
  · intro h
    cases h with
    | here => exact .inl ⟨rfl, rfl⟩
    | later h => exact .inr h
  · rintro (⟨rfl, rfl⟩ | h)
    · exact .here
    · exact .later h

theorem marked_false {cs left : List Char} {n : Nat} :
    ¬ Marked cs (List.replicate n false) left := by
  intro h
  generalize hmarks : List.replicate n false = marks at h
  induction h generalizing n with
  | here => cases n <;> simp [List.replicate_succ] at hmarks
  | later _ ih =>
      cases n with
      | zero => simp at hmarks
      | succ n => exact ih (List.cons.inj (List.replicate_succ ▸ hmarks)).2

theorem getLast?_eq_true_iff {cs : List Char} {marks : List Bool}
    (h : marks.length = cs.length + 1) :
    marks.getLast?.getD false = true ↔ Marked cs marks [] := by
  induction cs generalizing marks with
  | nil =>
      obtain ⟨mark, rfl⟩ := List.length_eq_one_iff.1 h
      simp
  | cons c cs ih =>
      obtain ⟨mark, marks, rfl⟩ := List.exists_cons_of_length_eq_add_one h
      have hlength : marks.length = cs.length + 1 := Nat.succ.inj h
      obtain ⟨next, later, rfl⟩ := List.exists_cons_of_length_eq_add_one hlength
      rw [marked_cons, ← ih hlength, List.getLast?_cons_cons]
      simp

/-! ### One piece -/

theorem length_marksAfter (token : Token) {cs : List Char} {marks : List Bool} (here : Bool)
    (h : marks.length = cs.length + 1) :
    (token.marksAfter here cs marks).length = cs.length + 1 := by
  induction cs generalizing here marks with
  | nil => rfl
  | cons c cs ih =>
      obtain ⟨mark, marks, rfl⟩ := List.exists_cons_of_length_eq_add_one h
      rw [Token.marksAfter, List.length_cons, ih _ (Nat.succ.inj h), List.length_cons]

theorem length_marksAfterSequence (seen : Bool) (marks : List Bool) :
    (marksAfterSequence seen marks).length = marks.length := by
  induction marks generalizing seen with
  | nil => rfl
  | cons mark marks ih => rw [marksAfterSequence, List.length_cons, ih, List.length_cons]

theorem length_marksAfterDirectories {cs : List Char} {marks : List Bool} (seen afterSlash : Bool)
    (h : marks.length = cs.length + 1) :
    (marksAfterDirectories seen afterSlash cs marks).length = cs.length + 1 := by
  induction cs generalizing seen afterSlash marks with
  | nil =>
      obtain ⟨mark, rfl⟩ := List.length_eq_one_iff.1 h
      rfl
  | cons c cs ih =>
      obtain ⟨mark, marks, rfl⟩ := List.exists_cons_of_length_eq_add_one h
      rw [marksAfterDirectories, List.length_cons, ih _ _ (Nat.succ.inj h), List.length_cons]

theorem length_advance (token : Token) {cs : List Char} {marks : List Bool}
    (h : marks.length = cs.length + 1) : (token.advance cs marks).length = cs.length + 1 := by
  cases token with
  | anySequence => exact (length_marksAfterSequence _ _).trans h
  | anyDirectories => exact length_marksAfterDirectories _ _ h
  | literal | anyChar | oneOf | noneOf => exact length_marksAfter _ _ h

theorem marked_marksAfter {token : Token} {cs left : List Char} {marks : List Bool} {here : Bool}
    (h : marks.length = cs.length + 1) :
    Marked cs (token.marksAfter here cs marks) left ↔
      here ∧ left = cs ∨ ∃ c, token.accepts c ∧ Marked cs marks (c :: left) := by
  induction cs generalizing here marks with
  | nil =>
      obtain ⟨mark, rfl⟩ := List.length_eq_one_iff.1 h
      simp [Token.marksAfter]
  | cons d cs ih =>
      obtain ⟨mark, marks, rfl⟩ := List.exists_cons_of_length_eq_add_one h
      rw [Token.marksAfter, marked_cons, ih (Nat.succ.inj h)]
      simp only [marked_cons, List.cons.injEq, Bool.and_eq_true]
      constructor
      · rintro (hhere | ⟨⟨hmark, haccepts⟩, rfl⟩ | ⟨c, haccepts, hc⟩)
        · exact .inl hhere
        · exact .inr ⟨d, haccepts, .inl ⟨hmark, rfl, rfl⟩⟩
        · exact .inr ⟨c, haccepts, .inr hc⟩
      · rintro (hhere | ⟨c, haccepts, ⟨hmark, rfl, rfl⟩ | hc⟩)
        · exact .inl hhere
        · exact .inr (.inl ⟨⟨hmark, haccepts⟩, rfl⟩)
        · exact .inr (.inr ⟨c, haccepts, hc⟩)

theorem marked_marksAfterSequence {cs left : List Char} {marks : List Bool} {seen : Bool}
    (h : marks.length = cs.length + 1) :
    Marked cs (marksAfterSequence seen marks) left ↔
      seen ∧ left <:+ cs ∨ ∃ place, Marked cs marks place ∧ left <:+ place := by
  induction cs generalizing seen marks with
  | nil =>
      obtain ⟨mark, rfl⟩ := List.length_eq_one_iff.1 h
      simp [marksAfterSequence, or_and_right]
  | cons c cs ih =>
      obtain ⟨mark, marks, rfl⟩ := List.exists_cons_of_length_eq_add_one h
      rw [marksAfterSequence, marked_cons, ih (Nat.succ.inj h)]
      simp only [marked_cons, or_and_right, exists_or, and_assoc, exists_and_left, exists_eq_left,
        List.suffix_cons_iff, Bool.or_eq_true]
      tauto

/-- A mark at an earlier place counts after a slash and at the end. -/
theorem marked_marksAfterDirectories {cs left : List Char} {marks : List Bool}
    {seen afterSlash : Bool} (h : marks.length = cs.length + 1) :
    Marked cs (marksAfterDirectories seen afterSlash cs marks) left ↔
      seen ∧ (afterSlash ∧ left = cs ∨ left = [] ∨ '/' :: left <:+ cs) ∨
        ∃ place, Marked cs marks place ∧ (left = place ∨ left = [] ∨ '/' :: left <:+ place) := by
  induction cs generalizing seen afterSlash marks with
  | nil =>
      obtain ⟨mark, rfl⟩ := List.length_eq_one_iff.1 h
      simp [marksAfterDirectories, or_and_right]
      tauto
  | cons c cs ih =>
      obtain ⟨mark, marks, rfl⟩ := List.exists_cons_of_length_eq_add_one h
      have hplace : left = [] ∨ '/' :: left <:+ c :: cs ↔
          c = '/' ∧ left = cs ∨ left = [] ∨ '/' :: left <:+ cs := by
        rw [List.suffix_cons_iff, List.cons.injEq, eq_comm (a := '/')]
        tauto
      rw [marksAfterDirectories, marked_cons, ih (Nat.succ.inj h)]
      simp only [marked_cons, or_and_right (b := Marked _ _ _), exists_or, and_assoc,
        exists_and_left, exists_eq_left, hplace, Bool.or_eq_true, Bool.and_eq_true,
        decide_eq_true_eq]
      -- where a piece leads to plays no role in what is left, which is propositional
      generalize (c = '/' ∧ left = cs ∨ left = [] ∨ '/' :: left <:+ cs) = reached
      clear ih hplace
      grind

/-- The places that a piece leads to from the marked ones are marked after it, and no others. -/
theorem marked_advance {token : Token} {cs left : List Char} {marks : List Bool}
    (h : marks.length = cs.length + 1) :
    Marked cs (token.advance cs marks) left ↔
      ∃ part, token.StandsFor part left ∧ Marked cs marks (part ++ left) := by
  have hchar (hone : ∀ part, token.StandsFor part left ↔ ∃ c, token.accepts c ∧ part = [c]) :
      Marked cs (token.marksAfter false cs marks) left ↔
        ∃ part, token.StandsFor part left ∧ Marked cs marks (part ++ left) := by
    rw [marked_marksAfter h]
    simp only [hone, Bool.false_eq_true, false_and, false_or]
    constructor
    · rintro ⟨c, haccepts, hc⟩
      exact ⟨[c], ⟨c, haccepts, rfl⟩, hc⟩
    · rintro ⟨part, ⟨c, haccepts, rfl⟩, hc⟩
      exact ⟨c, haccepts, hc⟩
  cases token with
  | anySequence =>
      rw [Token.advance, marked_marksAfterSequence h]
      simp only [Bool.false_eq_true, false_and, false_or]
      constructor
      · rintro ⟨place, hplace, part, rfl⟩
        exact ⟨part, .sequence, hplace⟩
      · rintro ⟨part, -, hpart⟩
        exact ⟨_, hpart, List.suffix_append part left⟩
  | anyDirectories =>
      rw [Token.advance, marked_marksAfterDirectories h]
      simp only [Bool.false_eq_true, false_and, false_or]
      constructor
      · rintro ⟨place, hplace, rfl | rfl | ⟨part, rfl⟩⟩
        · exact ⟨[], .noDirectory, hplace⟩
        · exact ⟨place, .wholeRest, by simpa using hplace⟩
        · exact ⟨part ++ ['/'], .directories, by simpa using hplace⟩
      · rintro ⟨part, hpart, hplace⟩
        refine ⟨_, hplace, ?_⟩
        cases hpart with
        | char haccepts => cases haccepts
        | noDirectory => exact .inl rfl
        | @directories part => exact .inr (.inr ⟨part, by simp⟩)
        | wholeRest => exact .inr (.inl rfl)
  | literal | anyChar | oneOf | noneOf =>
      refine hchar fun part => ⟨?_, ?_⟩
      · rintro ⟨haccepts⟩
        exact ⟨_, haccepts, rfl⟩
      · rintro ⟨c, haccepts, rfl⟩
        exact .char haccepts

theorem matches_cons_iff {token : Token} {tokens : List Token} {cs : List Char} :
    Matches (token :: tokens) cs ↔
      ∃ part rest, cs = part ++ rest ∧ token.StandsFor part rest ∧ Matches tokens rest := by
  constructor
  · rintro ⟨⟩
    exact ⟨_, _, rfl, ‹_›, ‹_›⟩
  · rintro ⟨part, rest, rfl, hpart, hrest⟩
    exact .cons hpart hrest

/-- The pieces lead from a marked place to the end exactly if they match what is left there. -/
theorem getLast?_foldl_advance {tokens : List Token} {cs : List Char} {marks : List Bool}
    (h : marks.length = cs.length + 1) :
    (tokens.foldl (fun marks token => token.advance cs marks) marks).getLast?.getD false = true ↔
      ∃ place, Marked cs marks place ∧ Matches tokens place := by
  -- over the pieces, with the marks general: each piece turns the marks into those after it
  induction tokens generalizing marks with
  | nil =>
      rw [List.foldl_nil, getLast?_eq_true_iff h]
      constructor
      · exact fun hend => ⟨[], hend, .nil⟩
      · rintro ⟨place, hplace, ⟨⟩⟩
        exact hplace
  | cons token tokens ih =>
      rw [List.foldl_cons, ih (length_advance token h)]
      simp only [marked_advance h, matches_cons_iff]
      constructor
      · rintro ⟨rest, ⟨part, hpart, hplace⟩, hrest⟩
        exact ⟨_, hplace, part, rest, rfl, hpart, hrest⟩
      · rintro ⟨_, hplace, part, rest, rfl, hpart, hrest⟩
        exact ⟨rest, ⟨part, hpart, hplace⟩, hrest⟩

theorem matchesText_iff {tokens : List Token} {cs : List Char} :
    matchesText tokens cs = true ↔ Matches tokens cs := by
  have hstart {place : List Char} :
      Marked cs (true :: List.replicate cs.length false) place ↔ place = cs := by
    cases cs with
    | nil => simp
    | cons c cs => simp [marked_false]
  rw [matchesText, getLast?_foldl_advance (by simp)]
  simp only [hstart, exists_eq_left]

theorem matchesText_anySequence (cs : List Char) : matchesText [.anySequence] cs = true := by
  have h : Matches [.anySequence] (cs ++ []) := .cons .sequence .nil
  rwa [List.append_nil, ← matchesText_iff] at h

/-! ## Patterns -/

/-- The members of a class. The first may be a bracket. -/
structure IsClass (members : List Char) : Prop where
  nonempty : members ≠ []
  closed : ']' ∉ members.tail

/-- The characters between the brackets of a class. -/
inductive SpellsClass : List Char → Token → Prop
  | oneOf {members : List Char} : IsClass members → members.head? ≠ some '!' →
      SpellsClass members (.oneOf (classRanges members))
  | noneOf {members : List Char} : IsClass members →
      SpellsClass ('!' :: members) (.noneOf (classRanges members))

/-- The characters spell the pieces where `before` is the character before them. -/
inductive Spells : (before : Option Char) → List Char → List Token → Prop
  | nil {before : Option Char} : Spells before [] []
  | anyChar {before : Option Char} {rest : List Char} {tokens : List Token} :
      Spells (some '?') rest tokens → Spells before ('?' :: rest) (.anyChar :: tokens)
  | anySequence {before : Option Char} {rest : List Char} {tokens : List Token} :
      rest.head? ≠ some '*' → Spells (some '*') rest tokens →
        Spells before ('*' :: rest) (.anySequence :: tokens)
  | directories {before : Option Char} {rest : List Char} {tokens : List Token} :
      before = none ∨ before = some '/' → Spells (some '/') rest tokens →
        Spells before ('*' :: '*' :: '/' :: rest) (.anyDirectories :: tokens)
  | lastDirectories {before : Option Char} :
      before = none ∨ before = some '/' → Spells before ['*', '*'] [.anyDirectories]
  | charClass {before : Option Char} {members rest : List Char} {token : Token}
      {tokens : List Token} : SpellsClass members token → Spells (some ']') rest tokens →
        Spells before ('[' :: (members ++ ']' :: rest)) (token :: tokens)
  | literal {before : Option Char} {c : Char} {rest : List Char} {tokens : List Token} :
      c ∉ ['?', '*', '['] → Spells (some c) rest tokens →
        Spells before (c :: rest) (.literal c :: tokens)

theorem takeClass?_eq_some_iff {cs members left : List Char} :
    takeClass? cs = some (members, left) ↔ cs = members ++ ']' :: left ∧ IsClass members := by
  constructor
  · intro h
    cases cs with
    | nil => cases h
    | cons first rest =>
        rw [takeClass?] at h
        have hrest := List.takeWhile_append_dropWhile (p := (· ≠ ']')) (l := rest)
        have hstop := List.head?_dropWhile_not (p := (· ≠ ']')) rest
        split at h
        · next c left' hdrop =>
            simp only [Option.some.injEq, Prod.mk.injEq] at h
            obtain ⟨rfl, rfl⟩ := h
            rw [hdrop] at hrest hstop
            obtain rfl : c = ']' := by simpa using hstop
            refine ⟨by rw [List.cons_append, hrest], by simp, fun hmem => ?_⟩
            simpa using List.mem_takeWhile_imp hmem
        · cases h
  · rintro ⟨rfl, hne, hclosed⟩
    obtain ⟨first, more, rfl⟩ := List.exists_cons_of_ne_nil hne
    have hmore : ∀ c ∈ more, decide (c ≠ ']') = true :=
      fun c hc => decide_eq_true fun h => hclosed (h ▸ hc)
    rw [List.cons_append, takeClass?, List.dropWhile_append_of_pos hmore,
      List.takeWhile_append_of_pos hmore]
    simp

theorem takeClassToken?_eq_some_iff {cs left : List Char} {token : Token} :
    takeClassToken? cs = some (token, left) ↔
      ∃ members, cs = members ++ ']' :: left ∧ SpellsClass members token := by
  constructor
  · intro h
    rw [takeClassToken?.eq_def] at h
    split at h
    · obtain ⟨⟨members, _⟩, hclass, he⟩ := Option.map_eq_some_iff.1 h
      cases he
      obtain ⟨rfl, hmembers⟩ := takeClass?_eq_some_iff.1 hclass
      exact ⟨'!' :: members, rfl, .noneOf hmembers⟩
    · next hnegated =>
        obtain ⟨⟨members, _⟩, hclass, he⟩ := Option.map_eq_some_iff.1 h
        cases he
        obtain ⟨rfl, hmembers⟩ := takeClass?_eq_some_iff.1 hclass
        refine ⟨members, rfl, .oneOf hmembers fun hhead => ?_⟩
        obtain ⟨more, rfl⟩ := List.head?_eq_some_iff.1 hhead
        exact hnegated _ rfl
  · rintro ⟨members, rfl, hspells⟩
    cases hspells with
    | @oneOf members hmembers hhead =>
        have hclass : takeClass? (members ++ ']' :: left) = some (members, left) :=
          takeClass?_eq_some_iff.2 ⟨rfl, hmembers⟩
        obtain ⟨first, more, rfl⟩ := List.exists_cons_of_ne_nil hmembers.nonempty
        have hfirst : first ≠ '!' := fun h => hhead (by rw [h, List.head?_cons])
        rw [List.cons_append, takeClassToken?, ← List.cons_append, hclass, Option.map_some]
        exact fun rest h => hfirst (List.cons.inj h).1
    | @noneOf members hmembers =>
        rw [List.cons_append, takeClassToken?, takeClass?_eq_some_iff.2 ⟨rfl, hmembers⟩,
          Option.map_some]

theorem spells_of_parseFrom {position : Nat} {before : Option Char} {cs : List Char}
    {tokens : List Token} (h : parseFrom position before cs = .ok tokens) :
    Spells before cs tokens := by
  -- the cases are the equations of the reader in order; those that are errors stand last
  fun_induction parseFrom position before cs generalizing tokens with
  | case1 =>
      cases h
      exact .nil
  | case2 _ _ _ ih =>
      obtain ⟨rest, hrest, rfl⟩ := map_eq_ok.1 h
      exact .anyChar (ih hrest)
  | case4 _ _ hbefore =>
      cases h
      exact .lastDirectories hbefore
  | case5 _ _ hbefore _ _ ih =>
      obtain ⟨rest, hrest, rfl⟩ := map_eq_ok.1 h
      exact .directories hbefore (ih hrest)
  | case8 _ _ _ _ hsingle ih =>
      obtain ⟨rest, hrest, rfl⟩ := map_eq_ok.1 h
      refine .anySequence (fun hhead => ?_) (ih hrest)
      obtain ⟨more, rfl⟩ := List.head?_eq_some_iff.1 hhead
      exact hsingle more rfl
  | case9 _ _ _ _ _ hclass _ ih =>
      obtain ⟨rest, hrest, rfl⟩ := map_eq_ok.1 h
      obtain ⟨members, rfl, hmembers⟩ := takeClassToken?_eq_some_iff.1 hclass
      exact .charClass hmembers (ih hrest)
  | case11 _ _ _ _ hquestion _ _ hasterisk hbracket ih =>
      obtain ⟨rest, hrest, rfl⟩ := map_eq_ok.1 h
      refine .literal (fun hmem => ?_) (ih hrest)
      simp only [List.mem_cons, List.not_mem_nil, or_false] at hmem
      exact hmem.elim hquestion (·.elim hasterisk hbracket)
  | case3 | case6 | case7 | case10 => cases h

theorem Spells.parseFrom {before : Option Char} {cs : List Char} {tokens : List Token}
    (h : Spells before cs tokens) (position : Nat) :
    Glob.parseFrom position before cs = .ok tokens := by
  induction h generalizing position with
  | nil => rw [Glob.parseFrom]
  | anyChar _ ih => rw [Glob.parseFrom, ih, map_ok]
  | @anySequence _ rest _ hsingle _ ih =>
      have hrest : ∀ more, rest = '*' :: more → False := by
        rintro more rfl
        exact hsingle List.head?_cons
      rw [Glob.parseFrom, ih, map_ok]
      · exact fun more => hrest _
      · exact hrest
  | directories hbefore _ ih => rw [Glob.parseFrom, if_pos hbefore, ih, map_ok]
  | lastDirectories hbefore => rw [Glob.parseFrom, if_pos hbefore]
  | charClass hmembers _ ih =>
      rw [Glob.parseFrom]
      split
      · next token left hclass =>
          rw [takeClassToken?_eq_some_iff.2 ⟨_, rfl, hmembers⟩] at hclass
          cases hclass
          rw [ih, map_ok]
      · next hclass => simp [takeClassToken?_eq_some_iff.2 ⟨_, rfl, hmembers⟩] at hclass
  | literal hc _ ih =>
      simp only [List.mem_cons, List.not_mem_nil, or_false, not_or] at hc
      obtain ⟨hquestion, hasterisk, hbracket⟩ := hc
      rw [Glob.parseFrom, ih, map_ok]
      · exact hquestion
      · exact fun _ h => absurd h hasterisk
      · exact fun _ h => absurd h hasterisk
      · exact hasterisk
      · exact hbracket

theorem parse_eq_ok_iff {pattern : String} {tokens : List Token} :
    parse pattern = .ok tokens ↔ Spells none pattern.toList tokens :=
  ⟨spells_of_parseFrom, fun h => h.parseFrom 0⟩

theorem parse_asterisk : parse "*" = .ok [.anySequence] := by
  have h : "*".toList = ['*'] := by decide
  rw [parse_eq_ok_iff, h]
  exact .anySequence (by simp) .nil

/-- The text is a pattern. -/
def IsPattern (pattern : String) : Prop :=
  ∃ tokens, Spells none pattern.toList tokens

/-- The text is a pattern that stands for the whole name. -/
def Covers (pattern name : String) : Prop :=
  ∃ tokens, Spells none pattern.toList tokens ∧ Matches tokens name.toList

theorem exists_parse_eq_error_iff {pattern : String} :
    (∃ reason, parse pattern = .error reason) ↔ ¬ IsPattern pattern := by
  simp only [IsPattern, ← parse_eq_ok_iff]
  cases parse pattern <;> simp

end Changesets.Glob
