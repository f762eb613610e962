import Changesets.Proofs.Diff.Hunk
import Mathlib.Data.List.Infix

/-!
Which lines are one section. `File.WellFormed` is the domain of the format: the sections that some
diff has. `takeFile_eq_ok_iff` says that the reader takes exactly such a section, from lines that
denote it, and only where what follows cannot belong to it any more.
-/
namespace Changesets.Diff

/-! ## The lines of a section -/

/-- The lines before the hunks. -/
def File.preamble (file : File) : List String :=
  file.extended ++ file.binaryPatch ++
    if file.hasHeader then ["--- " ++ file.old.print, "+++ " ++ file.new.print] else []

/-- The lines that denote a section: hunk headers in any of their spellings, all else as it is. -/
def File.Denotes (ls : List String) (file : File) : Prop :=
  ∃ written, HunkLines file.hunks written ∧ ls = file.preamble ++ written

theorem File.toLines_eq (file : File) :
    file.toLines = file.preamble ++ file.hunks.flatMap Hunk.toLines := rfl

theorem File.denotes_toLines (file : File) : File.Denotes file.toLines file :=
  ⟨_, hunkLines_toLines file.hunks, rfl⟩

/-- Whether the extended header announces a binary patch. Its first line never does. -/
def File.isBinary (file : File) : Bool :=
  file.extended.tail.any announcesBinary

/-- A section as some diff may have it. -/
structure File.WellFormed (file : File) : Prop where
  /-- An extended header begins with its `diff ` line. -/
  first : ∀ line ∈ file.extended.head?, Text.startsWith "diff " line
  later : ∀ line ∈ file.extended.tail, Text.isBlankText line = false ∧
    ∀ start ∈ ["diff ", "--- ", "@@ "], Text.startsWith start line = false
  /-- Only the last extended line may announce a binary patch. -/
  announced : ∀ line ∈ file.extended.tail.dropLast, announcesBinary line = false
  binary : file.isBinary → file.hasHeader = false ∧
    ∀ line ∈ file.binaryPatch, Text.startsWith "diff " line = false
  textual : file.isBinary = false → file.binaryPatch = []
  headed : file.hasHeader → '\t' ∉ file.old.name.toList ∧ '\t' ∉ file.new.name.toList
  headerless : file.hasHeader = false → file.extended ≠ [] ∧
    file.old.time = none ∧ file.new.time = none ∧ file.hunks = [] ∧
    (file.old.name, file.new.name) = GitHeader.names file.extended
  hunks : ∀ hunk ∈ file.hunks, hunk.WellFormed

instance (file : File) : Decidable file.WellFormed :=
  decidable_of_iff
    ((∀ line ∈ file.extended.head?, Text.startsWith "diff " line) ∧
      (∀ line ∈ file.extended.tail, Text.isBlankText line = false ∧
        ∀ start ∈ ["diff ", "--- ", "@@ "], Text.startsWith start line = false) ∧
      (∀ line ∈ file.extended.tail.dropLast, announcesBinary line = false) ∧
      (file.isBinary → file.hasHeader = false ∧
        ∀ line ∈ file.binaryPatch, Text.startsWith "diff " line = false) ∧
      (file.isBinary = false → file.binaryPatch = []) ∧
      (file.hasHeader → '\t' ∉ file.old.name.toList ∧ '\t' ∉ file.new.name.toList) ∧
      (file.hasHeader = false → file.extended ≠ [] ∧
        file.old.time = none ∧ file.new.time = none ∧ file.hunks = [] ∧
        (file.old.name, file.new.name) = GitHeader.names file.extended) ∧
      ∀ hunk ∈ file.hunks, hunk.WellFormed)
    ⟨fun ⟨h1, h2, h3, h4, h5, h6, h7, h8⟩ => ⟨h1, h2, h3, h4, h5, h6, h7, h8⟩,
      fun ⟨h1, h2, h3, h4, h5, h6, h7, h8⟩ => ⟨h1, h2, h3, h4, h5, h6, h7, h8⟩⟩

theorem File.WellFormed.isBinary_eq_false {file : File} (h : file.WellFormed)
    (hheader : file.hasHeader) : file.isBinary = false := by
  rw [Bool.eq_false_iff]
  intro hbinary
  simp [(h.binary hbinary).1] at hheader

theorem File.WellFormed.binaryPatch_eq_nil {file : File} (h : file.WellFormed)
    (hext : file.extended = []) : file.binaryPatch = [] :=
  h.textual (by simp [File.isBinary, hext])

theorem File.WellFormed.not_diff_of_mem_binaryPatch {file : File} (h : file.WellFormed) :
    ∀ line ∈ file.binaryPatch, Text.startsWith "diff " line = false := by
  cases hbinary : file.isBinary with
  | true => exact (h.binary hbinary).2
  | false => simp [h.textual hbinary]

/-- The one `diff ` line of a section is the first of its extended header. -/
theorem File.WellFormed.filter_diff {file : File} (h : file.WellFormed) {ls : List String}
    (hls : File.Denotes ls file) :
    ls.filter (Text.startsWith "diff ") = file.extended.head?.toList := by
  obtain ⟨written, hwritten, rfl⟩ := hls
  have hextended : file.extended.filter (Text.startsWith "diff ") =
      file.extended.head?.toList := by
    have hfirst := h.first
    have hlater := h.later
    generalize file.extended = extended at hfirst hlater
    cases extended with
    | nil => rfl
    | cons line later =>
        rw [List.filter_cons_of_pos (hfirst line rfl), List.filter_eq_nil_iff.2]
        · rfl
        · exact fun l hl => by simp [(hlater l hl).2 "diff " (by simp)]
  have hbinary := h.not_diff_of_mem_binaryPatch
  have hhunks := hwritten.not_diff h.hunks
  have hnames : ∀ line ∈ (if file.hasHeader then
      ["--- " ++ file.old.print, "+++ " ++ file.new.print] else []),
      Text.startsWith "diff " line = false := by
    have hold : Text.startsWith "diff " ("--- " ++ file.old.print) = false :=
      Text.startsWith_eq_false (Text.startsWith_append _ _) (by decide)
    have hnew : Text.startsWith "diff " ("+++ " ++ file.new.print) = false :=
      Text.startsWith_eq_false (Text.startsWith_append _ _) (by decide)
    split <;> simp [hold, hnew]
  have hnone : ∀ {lines : List String},
      (∀ line ∈ lines, Text.startsWith "diff " line = false) →
        lines.filter (Text.startsWith "diff ") = [] :=
    fun hlines => List.filter_eq_nil_iff.2 fun line hline => by simp [hlines line hline]
  simp [File.preamble, hextended, hnone hbinary, hnone hnames, hnone hhunks]

/-- What may come right after a section: no line that would still belong to it. -/
def File.EndsAt (file : File) (left : List String) : Prop :=
  ∀ line ∈ left.head?,
    if file.hasHeader then startsHunk line = false ∧ (file.hunks ≠ [] → isMarker line = false)
    else Text.startsWith "diff " line ∨ file.isBinary = false ∧ Text.isBlankText line

/-! ## Header lines -/

theorem Side.parse_eq_iff {text : String} {side : Side} :
    Side.parse text = side ↔ text = side.print ∧ '\t' ∉ side.name.toList := by
  have htab : "\t".toList = ['\t'] := by decide
  constructor
  · intro heq
    subst heq
    rw [Side.parse]
    split
    · next name time h =>
        rw [Text.splitFirst?_eq_some, htab] at h
        have hcut := Text.mem_cuts.1 (List.mem_of_mem_head? h)
        refine ⟨String.toList_injective ?_, Text.notMem_of_head?_cuts h⟩
        simp [Side.print, hcut]
    · next h =>
        rw [Text.splitFirst?_eq_none, htab, List.singleton_infix_iff] at h
        exact ⟨rfl, h⟩
  · intro hspec
    obtain ⟨rfl, hname⟩ := hspec
    obtain ⟨name, time⟩ := side
    cases time with
    | none =>
        have h : Text.splitFirst? "\t" name = none := by
          rwa [Text.splitFirst?_eq_none, htab, List.singleton_infix_iff]
        simp [Side.parse, Side.print, h]
    | some time =>
        have h : Text.splitFirst? "\t" (name ++ "\t" ++ time) = some (name, time) := by
          rw [Text.splitFirst?_eq_some]
          simpa using Text.head?_cuts_of_notMem (r := []) hname time.toList
        simp [Side.parse, Side.print, h]

/-! ## Extended headers -/

theorem endsExtended_eq_false_iff {line : String} :
    endsExtended line = false ↔ Text.isBlankText line = false ∧
      ∀ start ∈ ["diff ", "--- ", "@@ "], Text.startsWith start line = false := by
  simp only [endsExtended, startsFile, startsHunk, Bool.or_eq_false_iff, List.forall_mem_cons]
  constructor
  · intro hspec
    obtain ⟨⟨⟨hdiff, hold⟩, hhunk⟩, hblank⟩ := hspec
    exact ⟨hblank, hdiff, hold, hhunk, by simp⟩
  · intro hspec
    obtain ⟨hblank, hdiff, hold, hhunk, -⟩ := hspec
    exact ⟨⟨⟨hdiff, hold⟩, hhunk⟩, hblank⟩

/-- Where an extended header stops, by its lines after the first. -/
def ExtendedStops (later left : List String) : Prop :=
  ∀ line ∈ left.head?,
    if later.any announcesBinary then Text.startsWith "diff " line else endsExtended line

/-- The lines of an extended header after the first, and the binary patch. -/
structure ExtendedTail (later binary : List String) : Prop where
  continues : ∀ line ∈ later, endsExtended line = false
  announced : ∀ line ∈ later.dropLast, announcesBinary line = false
  patch : later.any announcesBinary → ∀ line ∈ binary, Text.startsWith "diff " line = false
  textual : later.any announcesBinary = false → binary = []

theorem extendedTail_cons {line : String} {later binary : List String}
    (hne : announcesBinary line = false) :
    ExtendedTail (line :: later) binary ↔
      endsExtended line = false ∧ ExtendedTail later binary := by
  have hany : (line :: later).any announcesBinary = later.any announcesBinary := by simp [hne]
  have hlast : (∀ l ∈ (line :: later).dropLast, announcesBinary l = false) ↔
      ∀ l ∈ later.dropLast, announcesBinary l = false := by
    cases later <;> simp [hne]
  constructor
  · intro hspec
    obtain ⟨hcont, hann, hpatch, htext⟩ := hspec
    rw [List.forall_mem_cons] at hcont
    exact ⟨hcont.1, hcont.2, hlast.1 hann, hany ▸ hpatch, hany ▸ htext⟩
  · intro hspec
    obtain ⟨hline, hcont, hann, hpatch, htext⟩ := hspec
    exact ⟨List.forall_mem_cons.2 ⟨hline, hcont⟩, hlast.2 hann, hany.symm ▸ hpatch,
      hany.symm ▸ htext⟩

theorem takeExtended_sound {ls later binary left : List String}
    (h : takeExtended ls = (later, binary, left)) :
    ExtendedTail later binary ∧ ls = later ++ binary ++ left ∧ ExtendedStops later left := by
  induction ls generalizing later with
  | nil =>
      cases h
      exact ⟨⟨by simp, by simp, by simp, by simp⟩, rfl, by simp [ExtendedStops]⟩
  | cons line rest ih =>
      rw [takeExtended] at h
      split at h
      · next hline =>
          cases h
          exact ⟨⟨by simp, by simp, by simp, by simp⟩, rfl, by simp [ExtendedStops, hline]⟩
      · next hline =>
          rw [Bool.not_eq_true] at hline
          split at h
          · next hann =>
              cases h
              obtain ⟨hbinary, hleft⟩ :=
                mem_takeWhile_dropWhile (fun l => !Text.startsWith "diff " l) rest
              refine ⟨⟨by simpa using hline, by simp, fun _ l hl => ?_, by simp [hann]⟩, ?_, ?_⟩
              · simpa using hbinary l hl
              · simp [List.takeWhile_append_dropWhile]
              · intro l hl
                simpa [hann] using hleft l hl
          · next hann =>
              rw [Bool.not_eq_true] at hann
              cases h
              obtain ⟨htail, hrest, hstops⟩ := ih rfl
              refine ⟨(extendedTail_cons hann).2 ⟨hline, htail⟩, ?_, ?_⟩
              · rw [List.cons_append, List.cons_append, ← hrest]
              · simpa [ExtendedStops, hann] using hstops

theorem takeExtended_append {later binary left : List String} (h : ExtendedTail later binary)
    (hstops : ExtendedStops later left) :
    takeExtended (later ++ binary ++ left) = (later, binary, left) := by
  induction later with
  | nil =>
      obtain rfl := h.textual rfl
      cases left with
      | nil => rfl
      | cons line left =>
          have hline : endsExtended line := hstops line rfl
          simp [takeExtended, hline]
  | cons line later ih =>
      have hline : endsExtended line = false := h.continues line (by simp)
      rw [List.cons_append, List.cons_append, takeExtended, hline, if_neg Bool.false_ne_true]
      cases hann : announcesBinary line with
      | true =>
          -- the line that announces the patch is the last one, so the patch follows at once
          obtain rfl : later = [] := by
            cases later with
            | nil => rfl
            | cons l later => simpa [hann] using h.announced line (by simp)
          have hany : [line].any announcesBinary := by simp [hann]
          have hbinary : ∀ l ∈ binary, !Text.startsWith "diff " l :=
            fun l hl => by simp [h.patch hany l hl]
          have hleft : ∀ l ∈ left.head?, (!Text.startsWith "diff " l) = false :=
            fun l hl => by simpa [hann] using hstops l hl
          obtain ⟨htaken, hdropped⟩ := takeWhile_append_of_head hbinary hleft
          simp [htaken, hdropped]
      | false =>
          have hlater := ((extendedTail_cons hann).1 h).2
          have hstops : ExtendedStops later left := by simpa [ExtendedStops, hann] using hstops
          rw [if_neg Bool.false_ne_true, ih hlater hstops]

theorem File.WellFormed.extendedTail {file : File} (h : file.WellFormed) :
    ExtendedTail file.extended.tail file.binaryPatch :=
  ⟨fun line hline => endsExtended_eq_false_iff.2 (h.later line hline), h.announced,
    fun hb => (h.binary hb).2, h.textual⟩

/-! ## Sections with header lines -/

theorem wellFormed_headed {extended : List String} {old new : Side} {hunks : List Hunk}
    (hfirst : ∀ line ∈ extended.head?, Text.startsWith "diff " line)
    (htail : ExtendedTail extended.tail []) (htext : extended.tail.any announcesBinary = false)
    (hold : '\t' ∉ old.name.toList) (hnew : '\t' ∉ new.name.toList)
    (hhunks : ∀ hunk ∈ hunks, hunk.WellFormed) :
    File.WellFormed { extended, old, new, hasHeader := true, hunks } where
  first := hfirst
  later l hl := endsExtended_eq_false_iff.1 (htail.continues l hl)
  announced := htail.announced
  binary hb := absurd hb (Bool.not_eq_true _ ▸ htext)
  textual _ := rfl
  headed _ := ⟨hold, hnew⟩
  headerless hh := by cases hh
  hunks := hhunks

theorem takePatch_sound {number : Nat} (extended : List String) {ls left : List String}
    {old : String} {file : File}
    (hfirst : ∀ line ∈ extended.head?, Text.startsWith "diff " line)
    (htail : ExtendedTail extended.tail []) (htext : extended.tail.any announcesBinary = false)
    (h : takePatch number extended old ls = .ok (file, left)) :
    file.WellFormed ∧ (∃ all, File.Denotes all file ∧
      extended ++ ("--- " ++ old) :: ls = all ++ left) ∧ file.EndsAt left := by
  unfold takePatch at h
  split at h
  · cases h
  · split at h
    · cases h
    · next new hnew =>
        obtain ⟨⟨hunks, _⟩, hhunks, he⟩ := map_eq_ok.1 h
        cases he
        obtain rfl := Text.dropStart?_eq_some.1 hnew
        obtain ⟨⟨written, hwritten, rfl⟩, hwf, hends⟩ := takeHunks_sound hhunks
        obtain ⟨hprintOld, htabOld⟩ := Side.parse_eq_iff.1 (rfl : Side.parse old = _)
        obtain ⟨hprintNew, htabNew⟩ := Side.parse_eq_iff.1 (rfl : Side.parse new = _)
        refine ⟨wellFormed_headed hfirst htail htext htabOld htabNew hwf,
          ⟨_, ⟨written, hwritten, rfl⟩, ?_⟩, hends⟩
        simp [File.preamble, ← hprintOld, ← hprintNew]

theorem takePatch_append {file : File} (h : file.WellFormed) (hheader : file.hasHeader)
    {written : List String} (hwritten : HunkLines file.hunks written) {left : List String}
    (hends : file.EndsAt left) (number : Nat) :
    takePatch number file.extended file.old.print
      (("+++ " ++ file.new.print) :: (written ++ left)) = .ok (file, left) := by
  have hold : Side.parse file.old.print = file.old :=
    Side.parse_eq_iff.2 ⟨rfl, (h.headed hheader).1⟩
  have hnew : Side.parse file.new.print = file.new :=
    Side.parse_eq_iff.2 ⟨rfl, (h.headed hheader).2⟩
  have hhunks : takeHunks (number + 1) (written ++ left) = .ok (file.hunks, left) :=
    takeHunks_append hwritten h.hunks _ (by simpa [File.EndsAt, hheader] using hends)
  have htext : file.binaryPatch = [] := h.textual (h.isBinary_eq_false hheader)
  simp [takePatch, hold, hnew, hhunks, Except.map, ← htext, ← hheader]

/-! ## Sections without header lines -/

theorem wellFormed_headerOnly {line : String} {later binaryPatch : List String}
    (hline : Text.startsWith "diff " line) (h : ExtendedTail later binaryPatch) :
    (File.headerOnly (line :: later) binaryPatch).WellFormed where
  first := by simpa [File.headerOnly] using hline
  later l hl := endsExtended_eq_false_iff.1 (h.continues l hl)
  announced := h.announced
  binary hb := ⟨rfl, h.patch hb⟩
  textual := h.textual
  headed hh := by cases hh
  headerless _ := ⟨List.cons_ne_nil _ _, rfl, rfl, rfl, rfl⟩
  hunks := by simp [File.headerOnly]

theorem File.WellFormed.eq_headerOnly {file : File} (h : file.WellFormed)
    (hheader : file.hasHeader = false) :
    file = File.headerOnly file.extended file.binaryPatch := by
  obtain ⟨-, hold, hnew, hhunks, hnames⟩ := h.headerless hheader
  obtain ⟨extended, binaryPatch, ⟨oldName, oldTime⟩, ⟨newName, newTime⟩, hasHeader, hunks⟩ := file
  simp only at hheader hold hnew hhunks hnames
  simp [File.headerOnly, ← hnames, hheader, hold, hnew, hhunks]

theorem startsWith_eq_false_of_isBlankText {start line : String}
    (hstart : start.toList.all Text.isBlank = false) (h : Text.isBlankText line) :
    Text.startsWith start line = false := by
  rw [Bool.eq_false_iff]
  intro hs
  have : start.toList.all Text.isBlank := List.all_eq_true.2 fun c hc =>
    List.all_eq_true.1 h c ((Text.startsWith_iff.1 hs).subset hc)
  simp [hstart] at this

theorem endsAt_headerOnly {line : String} {later binaryPatch left : List String} :
    (File.headerOnly (line :: later) binaryPatch).EndsAt left ↔
      ExtendedStops later left ∧
        ∀ l ∈ left.head?, Text.startsWith "--- " l = false ∧ startsHunk l = false := by
  have hbinary : (File.headerOnly (line :: later) binaryPatch).isBinary =
      later.any announcesBinary := rfl
  have hheader : (File.headerOnly (line :: later) binaryPatch).hasHeader = false := rfl
  rw [File.EndsAt, ExtendedStops, ← forall₂_and]
  refine forall₂_congr fun l _ => ?_
  rw [hheader, hbinary, if_neg Bool.false_ne_true]
  have hdiff : Text.startsWith "diff " l →
      Text.startsWith "--- " l = false ∧ startsHunk l = false :=
    fun h => ⟨Text.startsWith_eq_false h (by decide), Text.startsWith_eq_false h (by decide)⟩
  have hblank : Text.isBlankText l → Text.startsWith "--- " l = false ∧ startsHunk l = false :=
    fun h => ⟨startsWith_eq_false_of_isBlankText (by decide) h,
      startsWith_eq_false_of_isBlankText (by decide) h⟩
  cases later.any announcesBinary with
  | true =>
      rw [if_pos rfl]
      constructor
      · intro hspec
        rcases hspec with h | ⟨⟨⟩, -⟩
        exact ⟨h, hdiff h⟩
      · exact fun h => .inl h.1
  | false =>
      rw [if_neg Bool.false_ne_true]
      constructor
      · intro hspec
        rcases hspec with h | ⟨-, h⟩
        · exact ⟨by simp [endsExtended, startsFile, h], hdiff h⟩
        · exact ⟨by simp [endsExtended, h], hblank h⟩
      · intro hspec
        obtain ⟨h, hold, hhunk⟩ := hspec
        simpa [endsExtended, startsFile, hold, hhunk] using h

/-! ## Sections -/

theorem takeFile_sound {number : Nat} {line : String} {rest left : List String} {file : File}
    (hstart : startsFile line) (h : takeFile number line rest = .ok (file, left)) :
    file.WellFormed ∧ (∃ ls, File.Denotes ls file ∧ line :: rest = ls ++ left) ∧
      file.EndsAt left := by
  unfold takeFile at h
  split at h
  · next old hold =>
      obtain rfl := Text.dropStart?_eq_some.1 hold
      exact takePatch_sound [] (by simp) ⟨by simp, by simp, by simp, fun _ => rfl⟩ rfl h
  · next hold =>
      have hdiff : Text.startsWith "diff " line := by
        simpa [startsFile, Text.dropStart?_eq_none.1 hold] using hstart
      generalize hparts : takeExtended rest = parts at h
      obtain ⟨later, binary, middle⟩ := parts
      obtain ⟨htail, rfl, hstops⟩ := takeExtended_sound hparts
      simp only at h
      split at h
      · cases h
        refine ⟨wellFormed_headerOnly hdiff htail, ⟨_, File.denotes_toLines _, ?_⟩, ?_⟩
        · simp [File.toLines, File.headerOnly]
        · simp [File.EndsAt]
      · next l middle =>
          split at h
          · next old hold' =>
              obtain rfl := Text.dropStart?_eq_some.1 hold'
              -- a binary patch would have taken the `---` line, so none was announced
              have htext : later.any announcesBinary = false := by
                rw [Bool.eq_false_iff]
                intro hany
                have hl := hstops _ rfl
                rw [if_pos hany, Text.startsWith_eq_false (Text.startsWith_append "--- " old)
                  (by decide)] at hl
                cases hl
              obtain rfl := htail.textual htext
              simpa using takePatch_sound (line :: later) (by simpa using hdiff) htail htext h
          · next hold' =>
              split at h
              · cases h
              · next hhunk =>
                  cases h
                  refine ⟨wellFormed_headerOnly hdiff htail, ⟨_, File.denotes_toLines _, ?_⟩,
                    endsAt_headerOnly.2 ⟨hstops, ?_⟩⟩
                  · simp [File.toLines, File.headerOnly]
                  · simpa [Text.dropStart?_eq_none.1 hold'] using hhunk

theorem dropStart?_old_of_diff {line : String} (h : Text.startsWith "diff " line) :
    Text.dropStart? "--- " line = none :=
  Text.dropStart?_eq_none.2 (Text.startsWith_eq_false h (by decide))

theorem takeFile_append_of_hasHeader {file : File} (h : file.WellFormed) (hheader : file.hasHeader)
    {ls left : List String} (hls : File.Denotes ls file) (hends : file.EndsAt left) :
    ∃ line rest, ls = line :: rest ∧ startsFile line ∧
      ∀ number, takeFile number line (rest ++ left) = .ok (file, left) := by
  obtain ⟨written, hwritten, rfl⟩ := hls
  have hpatch := takePatch_append h hheader hwritten hends
  have hbinary := h.isBinary_eq_false hheader
  cases hext : file.extended with
  | nil =>
      refine ⟨"--- " ++ file.old.print, ("+++ " ++ file.new.print) :: written, ?_, ?_, ?_⟩
      · simp [File.preamble, hext, h.textual hbinary, hheader]
      · simp [startsFile]
      · intro number
        simpa [takeFile, hext] using hpatch (number + 1)
  | cons line later =>
      have hdiff : Text.startsWith "diff " line := h.first line (by simp [hext])
      have htail : ExtendedTail later [] := by
        simpa [hext, h.textual hbinary] using h.extendedTail
      refine ⟨line, later ++ ("--- " ++ file.old.print) :: ("+++ " ++ file.new.print) :: written,
        ?_, by simp [startsFile, hdiff], ?_⟩
      · simp [File.preamble, hext, h.textual hbinary, hheader]
      · intro number
        have hlater : later.any announcesBinary = false := by
          simpa [File.isBinary, hext] using hbinary
        have hstops : ExtendedStops later
            (("--- " ++ file.old.print) :: ("+++ " ++ file.new.print) :: (written ++ left)) := by
          simp [ExtendedStops, hlater, endsExtended, startsFile]
        have htake := takeExtended_append htail hstops
        rw [hext] at hpatch
        rw [List.append_nil] at htake
        simp [takeFile, dropStart?_old_of_diff hdiff, htake, hpatch]

theorem takeFile_append_of_headerless {file : File} (h : file.WellFormed)
    (hheader : file.hasHeader = false) {ls left : List String} (hls : File.Denotes ls file)
    (hends : file.EndsAt left) :
    ∃ line rest, ls = line :: rest ∧ startsFile line ∧
      ∀ number, takeFile number line (rest ++ left) = .ok (file, left) := by
  obtain ⟨written, hwritten, rfl⟩ := hls
  obtain ⟨hne, -, -, hhunks, -⟩ := h.headerless hheader
  obtain ⟨line, later, hext⟩ := List.exists_cons_of_ne_nil hne
  rw [hhunks] at hwritten
  cases hwritten
  have hdiff : Text.startsWith "diff " line := h.first line (by simp [hext])
  have hfile := h.eq_headerOnly hheader
  rw [hext] at hfile
  refine ⟨line, later ++ file.binaryPatch, ?_, by simp [startsFile, hdiff], ?_⟩
  · simp [File.preamble, hext, hheader]
  · intro number
    have htail : ExtendedTail later file.binaryPatch := by simpa [hext] using h.extendedTail
    rw [hfile] at hends
    obtain ⟨hstops, hnext⟩ := endsAt_headerOnly.1 hends
    have htake := takeExtended_append htail hstops
    simp only [takeFile, dropStart?_old_of_diff hdiff, htake]
    cases left with
    | nil => simp only [← hfile]
    | cons l left =>
        obtain ⟨hold, hhunk⟩ := hnext l rfl
        simp only [Text.dropStart?_eq_none.2 hold, hhunk, ← hfile, if_neg Bool.false_ne_true]

/-- A written section is taken as it is wherever it may end. -/
theorem takeFile_append {file : File} (h : file.WellFormed) {ls left : List String}
    (hls : File.Denotes ls file) (hends : file.EndsAt left) :
    ∃ line rest, ls = line :: rest ∧ startsFile line ∧
      ∀ number, takeFile number line (rest ++ left) = .ok (file, left) := by
  cases hheader : file.hasHeader with
  | true => exact takeFile_append_of_hasHeader h hheader hls hends
  | false => exact takeFile_append_of_headerless h hheader hls hends

theorem takeFile_eq_ok_iff {number : Nat} {line : String} {rest left : List String} {file : File}
    (hstart : startsFile line) :
    takeFile number line rest = .ok (file, left) ↔
      file.WellFormed ∧ (∃ ls, File.Denotes ls file ∧ line :: rest = ls ++ left) ∧
        file.EndsAt left := by
  refine ⟨takeFile_sound hstart, ?_⟩
  intro hspec
  obtain ⟨h, ⟨ls, hls, hlines⟩, hends⟩ := hspec
  obtain ⟨l, more, rfl, -, htake⟩ := takeFile_append h hls hends
  rw [List.cons_append, List.cons.injEq] at hlines
  rw [hlines.1, hlines.2, htake]

end Changesets.Diff
