import Changesets.Diff.File

/-!
The names of a section that has no `---` and `+++` lines, as its extended header gives them. The
operand of its `diff --git` line is two names with a space between them; names may hold spaces, so
the cut is chosen by what the two names have in common.
-/
namespace Changesets.Diff.GitHeader

/-- The cuts of an operand before a new name that begins with `b/`. -/
def candidates (operand : List Char) : List (List Char × List Char) :=
  (Text.cuts " b/".toList operand).map fun (old, path) => (old, "b/".toList ++ path)

/-- Whether both names are one path with the prefixes `a/` and `b/`. -/
def samePath (names : List Char × List Char) : Bool :=
  match Text.afterPrefix? "a/".toList names.1, Text.afterPrefix? "b/".toList names.2 with
  | some old, some new => old == new
  | none, none => true
  | _, _ => false

/-- The cut at a space between two equal halves, as names without prefixes have it. -/
def equalHalves? (operand : List Char) : Option (List Char × List Char) :=
  (Text.cuts [' '] operand).find? fun (old, new) => !old.isEmpty && old == new

/-- The two names of an operand. A quoted old name ends at the first quote that a space follows. -/
def splitOperand? (operand : List Char) : Option (List Char × List Char) :=
  match operand with
  | '"' :: _ => (Text.cuts ['"', ' '] operand).head?.map fun (old, new) => (old ++ ['"'], new)
  | _ =>
    ((candidates operand).find? samePath).or
      ((equalHalves? operand).or (candidates operand).head?)

/-- The old and the new name that the first extended header line gives. -/
def namesOfFirst? (line : String) : Option (String × String) := do
  let operand ← Text.dropStart? "diff --git " line
  let (old, new) ← splitOperand? operand.toList
  return (String.ofList old, String.ofList new)

/-- The names after one more extended header line: renames, copies, and files that are new or
deleted say them again. -/
def refine (names : String × String) (line : String) : String × String :=
  let source := (Text.dropStart? "rename from " line).or (Text.dropStart? "copy from " line)
  let target := (Text.dropStart? "rename to " line).or (Text.dropStart? "copy to " line)
  match source, target with
  | some path, _ => ("a/" ++ path, names.2)
  | none, some path => (names.1, "b/" ++ path)
  | none, none =>
    if Text.startsWith "new file mode " line then (devNull, names.2)
    else if Text.startsWith "deleted file mode " line then (names.1, devNull)
    else names

/-- The names of a section by its extended header; both are empty where it says none. -/
def names (extended : List String) : String × String :=
  match extended with
  | [] => ("", "")
  | first :: later => later.foldl refine ((namesOfFirst? first).getD ("", ""))

end Changesets.Diff.GitHeader
