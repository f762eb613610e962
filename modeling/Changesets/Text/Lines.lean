/-!
Texts as lists of lines. A line feed ends a line and belongs to none, and one at the end of the text
adds no further line; a carriage return is an ordinary character. `lines_unlines` says that a text
written line by line reads back as those lines.
-/
namespace Changesets.Text

/-- The lines of a text, without their line feeds. -/
def splitLines : List Char → List (List Char)
  | [] => []
  | c :: cs =>
    if c = '\n' then [] :: splitLines cs
    else match splitLines cs with
      | [] => [[c]]
      | line :: rest => (c :: line) :: rest

/-- The lines of a text, without their line feeds. -/
def lines (text : String) : List String :=
  (splitLines text.toList).map String.ofList

/-- The text in which a line feed follows every line. -/
def unlines (ls : List String) : String :=
  String.ofList (ls.flatMap fun l => l.toList ++ ['\n'])

theorem splitLines_append_newline {line : List Char} (h : '\n' ∉ line) (rest : List Char) :
    splitLines (line ++ '\n' :: rest) = line :: splitLines rest := by
  induction line with
  | nil => simp [splitLines]
  | cons c line ih =>
    have hc : c ≠ '\n' := fun e => h (e ▸ List.mem_cons_self)
    simp [splitLines, hc, ih fun m => h (List.mem_cons_of_mem _ m)]

theorem lines_unlines {ls : List String} (h : ∀ l ∈ ls, '\n' ∉ l.toList) :
    lines (unlines ls) = ls := by
  have split : splitLines (ls.flatMap fun l => l.toList ++ ['\n']) = ls.map String.toList := by
    induction ls with
    | nil => rfl
    | cons l ls ih =>
      rw [List.flatMap_cons, List.append_assoc, List.singleton_append,
        splitLines_append_newline (h l List.mem_cons_self), List.map_cons,
        ih fun m hm => h m (List.mem_cons_of_mem _ hm)]
  simp [lines, unlines, split, Function.comp_def]

theorem newline_notMem_of_mem_splitLines {cs line : List Char} (h : line ∈ splitLines cs) :
    '\n' ∉ line := by
  induction cs generalizing line with
  | nil => simp [splitLines] at h
  | cons c cs ih =>
    rw [splitLines] at h
    split at h
    · rcases List.mem_cons.1 h with rfl | h
      · simp
      · exact ih h
    · next hc =>
      split at h
      · obtain rfl := List.mem_singleton.1 h
        simpa using Ne.symm hc
      · next l rest hs =>
        rcases List.mem_cons.1 h with rfl | h
        · have := @ih l (by simp [hs])
          simp [this, Ne.symm hc]
        · exact ih (by simp [hs, h])

end Changesets.Text
