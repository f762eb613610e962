/-!
Glob patterns over names. `?` stands for one character and `*` for any sequence, both also for
slashes; `**` stands for any sequence of directories and must be a component of its own; `[...]` and
`[!...]` stand for one character of a class, or not of it. Everything else stands for itself.
-/
namespace Changesets.Glob

/-- One piece of a pattern. A class is a list of ranges. -/
inductive Token
  | literal (c : Char)
  | anyChar
  | anySequence
  | anyDirectories
  | oneOf (ranges : List (Char × Char))
  | noneOf (ranges : List (Char × Char))
  deriving DecidableEq

/-- Why a text is no pattern. Positions count characters from zero. -/
inductive Error
  /-- Three or more asterisks in a row. -/
  | wildcardRun (position : Nat)
  /-- A `**` that is only part of a component. -/
  | partialRecursive (position : Nat)
  /-- A class without an end or a member. -/
  | invalidClass (position : Nat)
  deriving DecidableEq

def Error.message : Error → String
  | wildcardRun position =>
    s!"Pattern syntax error near position {position}: wildcards are either regular `*` or " ++
      "recursive `**`"
  | partialRecursive position =>
    s!"Pattern syntax error near position {position}: recursive wildcards must form a single " ++
      "path component"
  | invalidClass position =>
    s!"Pattern syntax error near position {position}: invalid range pattern"

/-- The ranges of a class; a character alone is the range from it to itself. -/
def classRanges : List Char → List (Char × Char)
  | first :: '-' :: last :: rest => (first, last) :: classRanges rest
  | c :: rest => (c, c) :: classRanges rest
  | [] => []

/-- The members of a class and what follows its bracket. The first member may be a bracket. -/
def takeClass? : List Char → Option (List Char × List Char)
  | [] => none
  | first :: rest =>
    match rest.dropWhile (· ≠ ']') with
    | _ :: left => some (first :: rest.takeWhile (· ≠ ']'), left)
    | [] => none

theorem length_takeClass? {cs members left : List Char} (h : takeClass? cs = some (members, left)) :
    left.length < cs.length := by
  cases cs with
  | nil => simp [takeClass?] at h
  | cons first rest =>
    have hle := (rest.dropWhile_suffix fun c => decide (c ≠ ']')).length_le
    rw [takeClass?] at h
    split at h
    · next hd =>
      simp only [Option.some.injEq, Prod.mk.injEq] at h
      rw [hd, h.2, List.length_cons] at hle
      exact Nat.lt_succ_of_lt hle
    · simp at h

/-- The class after an opening bracket, and what follows it. -/
def takeClassToken? (cs : List Char) : Option (Token × List Char) :=
  match cs with
  | '!' :: rest => (takeClass? rest).map fun (members, left) => (.noneOf (classRanges members), left)
  | _ => (takeClass? cs).map fun (members, left) => (.oneOf (classRanges members), left)

theorem length_takeClassToken? {cs left : List Char} {token : Token}
    (h : takeClassToken? cs = some (token, left)) : left.length < cs.length := by
  unfold takeClassToken? at h
  split at h
  all_goals
    obtain ⟨⟨_, _⟩, hc, he⟩ := Option.map_eq_some_iff.1 h
    cases he
    first
      | exact length_takeClass? hc
      | exact Nat.lt_succ_of_lt (length_takeClass? hc)

/-- Reads the rest of a pattern from a position, after the given character. -/
def parseFrom (position : Nat) (before : Option Char) (cs : List Char) :
    Except Error (List Token) :=
  match cs with
  | [] => .ok []
  | '?' :: rest => (parseFrom (position + 1) (some '?') rest).map (.anyChar :: ·)
  | '*' :: '*' :: '*' :: _ => .error (.wildcardRun (position + 2))
  | '*' :: '*' :: rest =>
    if before = none ∨ before = some '/' then
      match rest with
      | [] => .ok [.anyDirectories]
      | '/' :: left => (parseFrom (position + 3) (some '/') left).map (.anyDirectories :: ·)
      | _ => .error (.partialRecursive (position + 2))
    else .error (.partialRecursive (position - 1))
  | '*' :: rest => (parseFrom (position + 1) (some '*') rest).map (.anySequence :: ·)
  | '[' :: rest =>
    match h : takeClassToken? rest with
    | some (token, left) =>
      have := length_takeClassToken? h
      (parseFrom (position + 1 + (rest.length - left.length)) (some ']') left).map (token :: ·)
    | none => .error (.invalidClass position)
  | c :: rest => (parseFrom (position + 1) (some c) rest).map (.literal c :: ·)
termination_by cs.length

def parse (pattern : String) : Except Error (List Token) :=
  parseFrom 0 none pattern.toList

def inRanges (ranges : List (Char × Char)) (c : Char) : Bool :=
  ranges.any fun (first, last) => first ≤ c && c ≤ last

/-- Whether a piece that stands for one character stands for this one. -/
def Token.accepts : Token → Char → Bool
  | literal c, d => c = d
  | anyChar, _ => true
  | oneOf ranges, c => inRanges ranges c
  | noneOf ranges, c => !inRanges ranges c
  | anySequence, _ | anyDirectories, _ => false

/-! A pattern is matched against all places of a text at once. A list of marks has one mark for the
place before each character and one for the end; a mark says that the pieces so far stand for some
text that ends there. -/

/-- The marks after a piece that stands for one character; `here` is the mark of the first place. -/
def Token.marksAfter (token : Token) : (here : Bool) → List Char → List Bool → List Bool
  | here, c :: cs, mark :: marks => here :: token.marksAfter (mark && token.accepts c) cs marks
  | here, _, _ => [here]

/-- The marks after a piece that stands for any sequence; `seen` says that there was a mark at an
earlier place. -/
def marksAfterSequence : (seen : Bool) → List Bool → List Bool
  | _, [] => []
  | seen, mark :: marks => (seen || mark) :: marksAfterSequence (seen || mark) marks

/-- The marks after a `**`, which stands for nothing, for a part that ends with a slash, or for all
that is left. `afterSlash` says that the first place follows a slash. -/
def marksAfterDirectories : (seen afterSlash : Bool) → List Char → List Bool → List Bool
  | seen, afterSlash, c :: cs, mark :: marks =>
    (mark || seen && afterSlash) :: marksAfterDirectories (seen || mark) (c = '/') cs marks
  | seen, _, _, mark :: _ => [seen || mark]
  | _, _, _, [] => []

def Token.advance (token : Token) (cs : List Char) (marks : List Bool) : List Bool :=
  match token with
  | anySequence => marksAfterSequence false marks
  | anyDirectories => marksAfterDirectories false false cs marks
  | token => token.marksAfter false cs marks

/-- Whether the pieces stand for the whole text. -/
def matchesText (tokens : List Token) (cs : List Char) : Bool :=
  let start := true :: List.replicate cs.length false
  ((tokens.foldl (fun marks token => token.advance cs marks) start).getLast?).getD false

end Changesets.Glob
