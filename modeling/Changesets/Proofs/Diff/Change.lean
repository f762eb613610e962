import Changesets.Proofs.Diff.GitNames
import Changesets.Proofs.Diff.Layout

/-!
Sections that tell a change of one path, with and without the prefixes `a/` and `b/` before its two
names. Each is read as it was put together, whether it has header lines of its own or its names are
those of its extended header; `effectivePath_toFile` says which path that gives it. Renames and
copies, which have two paths, are not among these changes.
-/
namespace Changesets.Diff

/-- How a diff writes the two names of a path. -/
inductive PathStyle
  | prefixed
  | bare

def PathStyle.oldName : PathStyle → String → String
  | prefixed, path => "a/" ++ path
  | bare, path => path

def PathStyle.newName : PathStyle → String → String
  | prefixed, path => "b/" ++ path
  | bare, path => path

namespace Change

inductive Kind
  | modified
  | added (mode : String)
  | deleted (mode : String)

def Kind.lines : Kind → List String
  | modified => []
  | added mode => ["new file mode " ++ mode]
  | deleted mode => ["deleted file mode " ++ mode]

def Kind.oldName (kind : Kind) (style : PathStyle) (path : String) : String :=
  match kind with
  | added _ => devNull
  | _ => style.oldName path

def Kind.newName (kind : Kind) (style : PathStyle) (path : String) : String :=
  match kind with
  | deleted _ => devNull
  | _ => style.newName path

/-- The name of the side that is left, or that was there last. -/
def Kind.lastName (kind : Kind) (style : PathStyle) (path : String) : String :=
  match kind with
  | deleted _ => style.oldName path
  | _ => style.newName path

/-- How a section shows the contents. They are not shown where only the mode changes or the file is
empty. -/
inductive Contents
  | unshown
  | text (oldTime newTime : Option String) (hunks : List Hunk)
  | binaryFiles
  | binaryPatch (patch : List String)

def filesDiffer (old new : String) : String :=
  "Binary files " ++ (old ++ " and " ++ new ++ " differ")

/-- The last extended header line of a section whose contents are binary. -/
def Contents.announcement (old new : String) : Contents → List String
  | binaryFiles => [filesDiffer old new]
  | binaryPatch _ => ["GIT binary patch"]
  | _ => []

def Contents.patch : Contents → List String
  | binaryPatch patch => patch
  | _ => []

def Contents.hunks : Contents → List Hunk
  | text _ _ hunks => hunks
  | _ => []

end Change

/-- A change of the file at one path. The details are further extended header lines: modes and the
ids of the contents. -/
structure Change where
  kind : Change.Kind
  details : List String
  contents : Change.Contents

namespace Change

def first (style : PathStyle) (path : String) : String :=
  "diff --git " ++ (style.oldName path ++ " " ++ style.newName path)

def toFile (change : Change) (style : PathStyle) (path : String) : File :=
  let old := change.kind.oldName style path
  let new := change.kind.newName style path
  let extended := first style path ::
    (change.kind.lines ++ (change.details ++ change.contents.announcement old new))
  match change.contents with
  | .text oldTime newTime hunks =>
    { extended, old := ⟨old, oldTime⟩, new := ⟨new, newTime⟩, hasHeader := true, hunks }
  | contents =>
    { extended, binaryPatch := contents.patch, old := ⟨old, none⟩, new := ⟨new, none⟩ }

/-- A line that neither ends the extended header nor says anything of the names or the contents. -/
structure IsDetail (line : String) : Prop where
  continues : endsExtended line = false
  textual : announcesBinary line = false
  nameless : GitHeader.SaysNoName line

structure WellFormed (change : Change) : Prop where
  details : ∀ line ∈ change.details, IsDetail line
  hunks : ∀ hunk ∈ change.contents.hunks, hunk.WellFormed
  patch : ∀ line ∈ change.contents.patch, Text.startsWith "diff " line = false

instance (line : String) : Decidable (IsDetail line) :=
  decidable_of_iff
    (endsExtended line = false ∧ announcesBinary line = false ∧ GitHeader.SaysNoName line)
    ⟨fun ⟨h1, h2, h3⟩ => ⟨h1, h2, h3⟩, fun ⟨h1, h2, h3⟩ => ⟨h1, h2, h3⟩⟩

instance (change : Change) : Decidable change.WellFormed :=
  decidable_of_iff
    ((∀ line ∈ change.details, IsDetail line) ∧
      (∀ hunk ∈ change.contents.hunks, hunk.WellFormed) ∧
      ∀ line ∈ change.contents.patch, Text.startsWith "diff " line = false)
    ⟨fun ⟨h1, h2, h3⟩ => ⟨h1, h2, h3⟩, fun ⟨h1, h2, h3⟩ => ⟨h1, h2, h3⟩⟩

end Change

/-- A relative path that a diff has as it is: neither in quotes nor with a time stamp cut off. -/
structure PlainPath (path : String) : Prop where
  nonempty : path ≠ ""
  relative : Text.startsWith "/" path = false
  unquoted : Text.startsWith "\"" path = false
  untabbed : '\t' ∉ path.toList

instance (path : String) : Decidable (PlainPath path) :=
  decidable_of_iff
    (path ≠ "" ∧ Text.startsWith "/" path = false ∧ Text.startsWith "\"" path = false ∧
      '\t' ∉ path.toList)
    ⟨fun ⟨h1, h2, h3, h4⟩ => ⟨h1, h2, h3, h4⟩, fun ⟨h1, h2, h3, h4⟩ => ⟨h1, h2, h3, h4⟩⟩

/-! ## Names in either style -/

theorem PlainPath.append {start path : String} (hstart : PlainPath start)
    (hpath : PlainPath path) : PlainPath (start ++ path) := by
  have hne : start.toList ≠ [] := by simpa using hstart.nonempty
  have hfirst : ∀ {mark : String} {c : Char}, mark.toList = [c] →
      Text.startsWith mark start = false → Text.startsWith mark (start ++ path) = false := by
    intro mark c hmark hno
    rw [← Bool.not_eq_true, Text.startsWith_iff_head? hmark] at hno ⊢
    rwa [String.toList_append, List.head?_append_of_ne_nil _ hne]
  refine ⟨?_, hfirst (c := '/') (by decide) hstart.relative,
    hfirst (c := '"') (by decide) hstart.unquoted, ?_⟩
  · simp [hstart.nonempty]
  · simpa using ⟨hstart.untabbed, hpath.untabbed⟩

theorem PathStyle.plainPath_oldName {path : String} (h : PlainPath path) (style : PathStyle) :
    PlainPath (style.oldName path) := by
  cases style with
  | prefixed => exact PlainPath.append (by decide : PlainPath "a/") h
  | bare => exact h

theorem PathStyle.plainPath_newName {path : String} (h : PlainPath path) (style : PathStyle) :
    PlainPath (style.newName path) := by
  cases style with
  | prefixed => exact PlainPath.append (by decide : PlainPath "b/") h
  | bare => exact h

theorem PlainPath.ne_devNull {path : String} (h : PlainPath path) : path ≠ devNull := by
  rintro rfl
  exact absurd h.relative (by decide)

theorem withoutQuotes_eq_self {name : String} (h : Text.startsWith "\"" name = false) :
    withoutQuotes name = name := by
  have hquote : unquoted? name.toList = none := by
    rw [unquoted?.eq_def]
    split
    · next rest hrest =>
        have hhead : name.toList.head? = some '"' := by rw [hrest, List.head?_cons]
        simp [(Text.startsWith_iff_head? (by decide : "\"".toList = ['"'])).2 hhead] at h
    · rfl
  rw [withoutQuotes, hquote, Option.map_none, Option.getD_none]

namespace Change

theorem namesOfFirst?_first {path : String} (h : PlainPath path) (style : PathStyle) :
    GitHeader.namesOfFirst? (first style path) =
      some (style.oldName path, style.newName path) := by
  cases style with
  | prefixed => exact GitHeader.namesOfFirst?_prefixed path
  | bare => exact GitHeader.namesOfFirst?_bare h.nonempty h.unquoted

theorem foldl_refine_kind (kind : Kind) (style : PathStyle) (path : String) :
    kind.lines.foldl GitHeader.refine (style.oldName path, style.newName path) =
      (kind.oldName style path, kind.newName style path) := by
  cases kind with
  | modified => rfl
  | added mode => exact GitHeader.refine_newFile mode _
  | deleted mode => exact GitHeader.refine_deletedFile mode _

theorem names_extended {path : String} (h : PlainPath path) (kind : Kind) (style : PathStyle)
    {lines : List String} (hlines : ∀ line ∈ lines, GitHeader.SaysNoName line) :
    GitHeader.names (first style path :: (kind.lines ++ lines)) =
      (kind.oldName style path, kind.newName style path) := by
  rw [GitHeader.names, namesOfFirst?_first h, Option.getD_some, List.foldl_append,
    foldl_refine_kind, GitHeader.foldl_refine_of_saysNoName hlines]

theorem Kind.untabbed_names {path : String} (h : PlainPath path) (kind : Kind)
    (style : PathStyle) :
    '\t' ∉ (kind.oldName style path).toList ∧ '\t' ∉ (kind.newName style path).toList := by
  have hold := (style.plainPath_oldName h).untabbed
  have hnew := (style.plainPath_newName h).untabbed
  have hnull : '\t' ∉ devNull.toList := by decide
  cases kind with
  | modified => exact ⟨hold, hnew⟩
  | added => exact ⟨hnull, hnew⟩
  | deleted => exact ⟨hold, hnull⟩

theorem effectivePath_toFile (change : Change) (style : PathStyle) {path : String}
    (h : PlainPath path) :
    (change.toFile style path).effectivePath = change.kind.lastName style path := by
  have hold := style.plainPath_oldName h
  have hnew := style.plainPath_newName h
  have hnames : (change.toFile style path).old.name = change.kind.oldName style path ∧
      (change.toFile style path).new.name = change.kind.newName style path := by
    rw [toFile]
    cases change.contents <;> exact ⟨rfl, rfl⟩
  rw [File.effectivePath, File.isDeleted, hnames.1, hnames.2]
  cases change.kind with
  | modified | added =>
      simp [Kind.newName, Kind.lastName, hnew.ne_devNull, withoutQuotes_eq_self hnew.unquoted]
  | deleted =>
      simp [Kind.newName, Kind.oldName, Kind.lastName, withoutQuotes_eq_self hold.unquoted]

/-! ## Reading the section -/

theorem startsWith_diff_first (operand : String) :
    Text.startsWith "diff " ("diff --git " ++ operand) := by
  rw [Text.startsWith_iff, String.toList_append]
  exact List.IsPrefix.trans (by decide) (List.prefix_append _ _)

theorem endsExtended_eq_false_of_startsWith {start line : String} (h : Text.startsWith start line)
    (hstart : start.toList.all Text.isBlank = false)
    (hother : ∀ other ∈ ["diff ", "--- ", "@@ "],
      ¬ start.toList <+: other.toList ∧ ¬ other.toList <+: start.toList) :
    endsExtended line = false := by
  refine endsExtended_eq_false_iff.2 ⟨?_, Text.startsWith_eq_false_of_forall h hother⟩
  rw [Bool.eq_false_iff]
  intro hblank
  simp [startsWith_eq_false_of_isBlankText hstart hblank] at h

theorem announcesBinary_eq_false_of_startsWith {start line : String}
    (h : Text.startsWith start line) (hother : ∀ other ∈ ["GIT binary patch", "Binary files "],
      ¬ start.toList <+: other.toList ∧ ¬ other.toList <+: start.toList) :
    announcesBinary line = false := by
  have hno := Text.startsWith_eq_false_of_forall h hother
  have hpatch : line ≠ "GIT binary patch" := by
    rintro rfl
    exact absurd (hno _ List.mem_cons_self) (by decide)
  simp [announcesBinary, hpatch, hno "Binary files " (by simp)]

theorem Kind.plain_of_mem_lines {kind : Kind} {line : String} (h : line ∈ kind.lines) :
    endsExtended line = false ∧ announcesBinary line = false := by
  cases kind with
  | modified => cases h
  | added mode | deleted mode =>
      obtain rfl := List.mem_singleton.1 h
      exact ⟨endsExtended_eq_false_of_startsWith (Text.startsWith_append _ _) (by decide)
          (by decide),
        announcesBinary_eq_false_of_startsWith (Text.startsWith_append _ _) (by decide)⟩

theorem startsWith_filesDiffer (old new : String) :
    Text.startsWith "Binary files " (filesDiffer old new) :=
  Text.startsWith_append _ _

theorem announcesBinary_filesDiffer (old new : String) :
    announcesBinary (filesDiffer old new) := by
  have hfinish : Text.endsWith " differ" (filesDiffer old new) := by
    rw [Text.endsWith, List.isSuffixOf_iff_suffix]
    refine ⟨("Binary files " ++ (old ++ " and " ++ new)).toList, ?_⟩
    rw [← String.toList_append, String.append_assoc]
    rfl
  simp [announcesBinary, startsWith_filesDiffer, hfinish]

theorem Contents.saysNoName_of_mem_announcement {contents : Contents} {old new line : String}
    (h : line ∈ contents.announcement old new) : GitHeader.SaysNoName line := by
  cases contents with
  | unshown | text => cases h
  | binaryFiles =>
      obtain rfl := List.mem_singleton.1 h
      exact Text.startsWith_eq_false_of_forall (startsWith_filesDiffer old new) (by decide)
  | binaryPatch patch =>
      obtain rfl := List.mem_singleton.1 h
      decide

theorem Contents.extendedTail_announcement {contents : Contents}
    (h : ∀ line ∈ contents.patch, Text.startsWith "diff " line = false) (old new : String) :
    ExtendedTail (contents.announcement old new) contents.patch := by
  have hannounced : ∀ {line : String} {patch : List String}, endsExtended line = false →
      announcesBinary line → (∀ l ∈ patch, Text.startsWith "diff " l = false) →
        ExtendedTail [line] patch :=
    fun hcontinues hline hpatch =>
      ⟨by simpa using hcontinues, by simp, fun _ => hpatch, by simp [hline]⟩
  cases contents with
  | unshown | text => exact ⟨by simp [announcement], by simp [announcement], nofun, fun _ => rfl⟩
  | binaryFiles =>
      exact hannounced (endsExtended_eq_false_of_startsWith (startsWith_filesDiffer old new)
        (by decide) (by decide)) (announcesBinary_filesDiffer old new) h
  | binaryPatch patch => exact hannounced (by decide) (by decide) h

theorem extendedTail_append {lines last binary : List String}
    (hlines : ∀ line ∈ lines, endsExtended line = false ∧ announcesBinary line = false)
    (hlast : ExtendedTail last binary) : ExtendedTail (lines ++ last) binary := by
  induction lines with
  | nil => exact hlast
  | cons line lines ih =>
      rw [List.forall_mem_cons] at hlines
      rw [List.cons_append]
      exact (extendedTail_cons hlines.1.2).2 ⟨hlines.1.1, ih hlines.2⟩

variable {change : Change}

theorem WellFormed.plain (h : change.WellFormed) :
    ∀ line ∈ change.kind.lines ++ change.details,
      endsExtended line = false ∧ announcesBinary line = false :=
  List.forall_mem_append.2 ⟨fun _ => Kind.plain_of_mem_lines, fun line hline =>
    ⟨(h.details line hline).continues, (h.details line hline).textual⟩⟩

theorem WellFormed.nameless (h : change.WellFormed) (old new : String) :
    ∀ line ∈ change.details ++ change.contents.announcement old new, GitHeader.SaysNoName line :=
  List.forall_mem_append.2 ⟨fun line hline => (h.details line hline).nameless,
    fun _ => Contents.saysNoName_of_mem_announcement⟩

theorem WellFormed.toFile (h : change.WellFormed) {path : String} (hpath : PlainPath path)
    (style : PathStyle) : (change.toFile style path).WellFormed := by
  have hfirst : Text.startsWith "diff " (first style path) := startsWith_diff_first _
  have htail := extendedTail_append h.plain (Contents.extendedTail_announcement h.patch
    (change.kind.oldName style path) (change.kind.newName style path))
  have hnames := names_extended hpath change.kind style
    (h.nameless (change.kind.oldName style path) (change.kind.newName style path))
  rw [List.append_assoc] at htail
  have hplain := h.plain
  have hhunks := h.hunks
  obtain ⟨kind, details, contents⟩ := change
  cases contents with
  | text oldTime newTime hunks =>
      have htext : (kind.lines ++ (details ++ [])).any announcesBinary = false := by
        rw [List.append_nil, List.any_eq_false]
        exact fun line hline => by simp [(hplain line hline).2]
      have htabs := kind.untabbed_names hpath style
      exact wellFormed_headed (by simpa using hfirst) htail htext htabs.1 htabs.2 hhunks
  | unshown | binaryFiles | binaryPatch =>
      -- without header lines, the names of the section have to be those that its header gives
      have hwf := wellFormed_headerOnly hfirst htail
      rw [File.headerOnly, hnames] at hwf
      exact hwf

end Change

theorem parse_of_denotes {text : String} {file : File} (hwf : file.WellFormed)
    (h : File.Denotes (Text.lines text) file) : parse text = .ok [file] := by
  have hends : file.EndsAt [] := by simp [File.EndsAt]
  have hlayout : Layout (Text.lines text ++ []) [file] := .file hwf h hends .nil
  rw [List.append_nil] at hlayout
  exact parse_eq_ok_iff.2 hlayout

theorem denotes_lines_unlines {ls written : List String} {file : File}
    (hls : ∀ line ∈ ls, '\n' ∉ line.toList) (hwritten : HunkLines file.hunks written)
    (h : ls = file.preamble ++ written) : File.Denotes (Text.lines (Text.unlines ls)) file := by
  rw [Text.lines_unlines hls]
  exact ⟨written, hwritten, h⟩

end Changesets.Diff
