import Changesets.Proofs.Diff.Change

/-!
Sections without header lines of their own. The extended header of such a section tells its names
by its first line and by those of its later lines that speak of names; whatever else stands there,
the section has the names that the same change has in header lines. For a rename or a copy these are
the two paths with the prefixes `a/` and `b/`, in either style of the first line.
-/
namespace Changesets.Diff

namespace GitHeader

/-- The later lines of an extended header that say something of the names. -/
def naming (later : List String) : List String :=
  later.filter fun line => ¬ SaysNoName line

inductive Move
  | rename
  | copy

def Move.source : Move → String
  | rename => "rename from "
  | copy => "copy from "

def Move.target : Move → String
  | rename => "rename to "
  | copy => "copy to "

end GitHeader

/-- What a first line needs of a path to be cut between the path and its repetition. -/
def PathStyle.Admits : PathStyle → String → Prop
  | prefixed, _ => True
  | bare, path => path ≠ "" ∧ Text.startsWith "\"" path = false

/-- The names that an extended header tells. -/
inductive GitHeader.Tells (first : String) (later : List String) : (old new : String) → Prop
  | change {kind : Change.Kind} {style : PathStyle} {path : String} :
      first = Change.first style path → style.Admits path → naming later = kind.lines →
        Tells first later (kind.oldName style path) (kind.newName style path)
  | move {move : Move} {source target : String} :
      (naming later).Perm [move.source ++ source, move.target ++ target] →
        Tells first later ("a/" ++ source) ("b/" ++ target)

namespace GitHeader

/-! ## Names -/

theorem refine_source (move : Move) (path : String) (names : String × String) :
    refine names (move.source ++ path) = ("a/" ++ path, names.2) := by
  cases move with
  | rename => simp [refine, Move.source]
  | copy =>
      have hrename : Text.dropStart? "rename from " ("copy from " ++ path) = none :=
        Text.dropStart?_eq_none.2
          (Text.startsWith_eq_false (Text.startsWith_append "copy from " path) (by decide))
      simp [refine, Move.source, hrename]

theorem refine_target (move : Move) (path : String) (names : String × String) :
    refine names (move.target ++ path) = (names.1, "b/" ++ path) := by
  have hno (start other : String)
      (h : ¬ start.toList <+: other.toList ∧ ¬ other.toList <+: start.toList) :
      Text.dropStart? other (start ++ path) = none :=
    Text.dropStart?_eq_none.2 (Text.startsWith_eq_false (Text.startsWith_append start path) h)
  cases move with
  | rename =>
      simp [refine, Move.target, hno "rename to " "rename from " (by decide),
        hno "rename to " "copy from " (by decide)]
  | copy =>
      simp [refine, Move.target, hno "copy to " "rename from " (by decide),
        hno "copy to " "copy from " (by decide),
        hno "copy to " "rename to " (by decide)]

theorem foldl_refine_naming (later : List String) (names : String × String) :
    later.foldl refine names = (naming later).foldl refine names := by
  -- a line that says no name leaves the names as they are, wherever it stands
  induction later generalizing names with
  | nil => rfl
  | cons line later ih =>
      by_cases h : SaysNoName line
      · rw [List.foldl_cons, refine_of_saysNoName h, ih, naming, naming,
          List.filter_cons_of_neg (by simpa using h)]
      · rw [List.foldl_cons, ih, naming, naming, List.filter_cons_of_pos (by simpa using h),
          List.foldl_cons]

/-- The order of the two lines makes no difference, since each says one name. -/
theorem foldl_refine_move {lines : List String} {move : Move} {source target : String}
    (h : lines.Perm [move.source ++ source, move.target ++ target]) (names : String × String) :
    lines.foldl refine names = ("a/" ++ source, "b/" ++ target) := by
  have hcomm : ∀ x ∈ lines, ∀ y ∈ lines, ∀ names,
      refine (refine names x) y = refine (refine names y) x := by
    intro x hx y hy names
    have hx := h.mem_iff.1 hx
    have hy := h.mem_iff.1 hy
    simp only [List.mem_cons, List.not_mem_nil, or_false] at hx hy
    rcases hx with rfl | rfl <;> rcases hy with rfl | rfl <;>
      simp only [refine_source, refine_target]
  rw [h.foldl_eq' hcomm, List.foldl_cons, List.foldl_cons, List.foldl_nil, refine_source,
    refine_target]

theorem namesOfFirst?_of_admits {style : PathStyle} {path : String} (h : style.Admits path) :
    namesOfFirst? (Change.first style path) = some (style.oldName path, style.newName path) := by
  cases style with
  | prefixed => exact namesOfFirst?_prefixed path
  | bare => exact namesOfFirst?_bare h.1 h.2

theorem Tells.names_eq {first old new : String} {later : List String}
    (h : Tells first later old new) : names (first :: later) = (old, new) := by
  rw [names, foldl_refine_naming]
  cases h with
  | @change kind style path hfirst hadmits hnaming =>
      rw [hnaming, hfirst, namesOfFirst?_of_admits hadmits]
      exact Change.foldl_refine_kind kind style path
  | move hnaming => exact foldl_refine_move hnaming _

end GitHeader

/-! ## Sections -/

/-- The lines of an extended header, and of the binary patch that it may announce, are read as a
section by themselves. -/
theorem parse_headerOnly {first : String} {later patch : List String} {text : String}
    (hfirst : Text.startsWith "diff " first) (hlater : ExtendedTail later patch)
    (htext : Text.lines text = first :: (later ++ patch)) :
    parse text = .ok [File.headerOnly (first :: later) patch] := by
  apply parse_of_denotes (wellFormed_headerOnly hfirst hlater)
  exact ⟨[], .nil, by simp [htext, File.preamble, File.headerOnly]⟩

theorem File.WellFormed.names_of_tells {file : File} (h : file.WellFormed)
    (hheader : file.hasHeader = false) {first old new : String} {later : List String}
    (hextended : file.extended = first :: later) (htells : GitHeader.Tells first later old new) :
    file.old = ⟨old, none⟩ ∧ file.new = ⟨new, none⟩ := by
  obtain ⟨-, holdTime, hnewTime, -, hnames⟩ := h.headerless hheader
  rw [hextended, htells.names_eq, Prod.mk.injEq] at hnames
  obtain ⟨rfl, rfl⟩ := hnames
  exact ⟨congrArg (Side.mk _) holdTime, congrArg (Side.mk _) hnewTime⟩

theorem File.effectivePath_congr {file other : File} (hold : file.old.name = other.old.name)
    (hnew : file.new.name = other.new.name) : file.effectivePath = other.effectivePath := by
  rw [effectivePath, effectivePath, isDeleted, isDeleted, hold, hnew]

/-- The names that an extended header tells are those of its section in whatever diff it stands, and
so is the path that they give, as for a section that has the same names in header lines. -/
theorem headerOnly_names_of_tells {first old new : String} {later patch : List String}
    (hfirst : Text.startsWith "diff " first) (hlater : ExtendedTail later patch)
    (htells : GitHeader.Tells first later old new) :
    (∀ text, Text.lines text = first :: (later ++ patch) →
      ∃ file, parse text = .ok [file] ∧ file.hasHeader = false ∧ file.extended = first :: later) ∧
    ∀ text files file, parse text = .ok files → file ∈ files → file.hasHeader = false →
      file.extended = first :: later →
        file.old = ⟨old, none⟩ ∧ file.new = ⟨new, none⟩ ∧
        ∀ text' headed, headed.WellFormed → headed.hasHeader → headed.old.name = old →
          headed.new.name = new → File.Denotes (Text.lines text') headed →
            parse text' = .ok [headed] ∧ headed.effectivePath = file.effectivePath := by
  refine ⟨fun text htext => ⟨_, parse_headerOnly hfirst hlater htext, rfl, rfl⟩, ?_⟩
  intro text files file hparse hmem hheader hextended
  have hwf := (readable_of_parse hparse file hmem).1
  obtain ⟨hold, hnew⟩ := hwf.names_of_tells hheader hextended htells
  refine ⟨hold, hnew, fun text' headed hheaded _ holdName hnewName hdenotes => ?_⟩
  exact ⟨parse_of_denotes hheaded hdenotes,
    File.effectivePath_congr (by rw [holdName, hold]) (by rw [hnewName, hnew])⟩

/-- The path holds what stands between the names of other operands. -/
theorem headerOnly_names_addedSeparators :
    Text.startsWith "diff " "diff --git a/x b/x b/x b/x" ∧
      ExtendedTail ["index 0000000..e69de29", "new file mode 100644"] [] ∧
      GitHeader.Tells "diff --git a/x b/x b/x b/x"
        ["index 0000000..e69de29", "new file mode 100644"] devNull "b/x b/x" ∧
      ∃ file,
        parse (Text.unlines ["diff --git a/x b/x b/x b/x", "index 0000000..e69de29",
          "new file mode 100644"]) = .ok [file] ∧
        file.old = ⟨devNull, none⟩ ∧ file.new = ⟨"b/x b/x", none⟩ ∧
        parse (Text.unlines ["--- /dev/null", "+++ b/x b/x\t"]) =
          .ok [{ File.withNames devNull "b/x b/x" with new := ⟨"b/x b/x", some ""⟩ }] ∧
        file.effectivePath = "b/x b/x" := by
  have hfirst : Text.startsWith "diff " "diff --git a/x b/x b/x b/x" := by decide
  have hlater : ExtendedTail ["index 0000000..e69de29", "new file mode 100644"] [] :=
    ⟨by decide, by decide, by decide, fun _ => rfl⟩
  have htells : GitHeader.Tells "diff --git a/x b/x b/x b/x"
      ["index 0000000..e69de29", "new file mode 100644"] devNull "b/x b/x" :=
    @GitHeader.Tells.change _ _ (.added "100644") .prefixed "x b/x" (by decide) trivial (by decide)
  obtain ⟨halone, hnames⟩ := headerOnly_names_of_tells hfirst hlater htells
  obtain ⟨file, hparse, hheader, hextended⟩ := halone (Text.unlines
    ["diff --git a/x b/x b/x b/x", "index 0000000..e69de29", "new file mode 100644"])
    (by decide +kernel)
  obtain ⟨hold, hnew, hheaded⟩ :=
    hnames _ _ file hparse (List.mem_singleton_self file) hheader hextended
  obtain ⟨hparse', hpath⟩ := hheaded (Text.unlines ["--- /dev/null", "+++ b/x b/x\t"])
    { File.withNames devNull "b/x b/x" with new := ⟨"b/x b/x", some ""⟩ } (by decide) rfl rfl rfl
    (denotes_lines_unlines (by decide) .nil (by decide))
  exact ⟨hfirst, hlater, htells, file, hparse, hold, hnew, hparse', hpath.symm.trans (by decide)⟩

end Changesets.Diff
