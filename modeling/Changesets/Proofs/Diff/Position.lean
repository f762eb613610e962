import Changesets.Proofs.Diff.Append
import Changesets.Proofs.Diff.Extent
import Changesets.Proofs.Diff.Layout

/-!
Where a fault points. The lines before the one that is at fault are a diff without a fault, and that
line is one that cannot come next. `FaultIn` says so of the lines that a reader was given, with what
it means for that reader to have come through; each reader has a lemma of that form, and a fault in
later lines is one in all of them by `FaultIn.append_left`.
-/
namespace Changesets.Diff

/-- What a fault says of the lines it is in. `whole` are the lines that are read to their end, and
`cutShort start` those that end within the hunk whose header is after the first `start` ones. -/
inductive FaultIn (whole : List String → Prop) (cutShort : Nat → List String → Prop)
    (number : Nat) : List String → ParseError → Prop
  | unexpectedLine {before after : List String} {line : String} :
      whole before → startsFile line = false → Text.isBlankText line = false →
        FaultIn whole cutShort number (before ++ line :: after)
          (.unexpectedLine (number + before.length) line)
  | missingNewHeader {before after : List String} {line : String} :
      whole before → Text.startsWith "--- " line →
        (∀ next ∈ after.head?, Text.startsWith "+++ " next = false) →
          FaultIn whole cutShort number (before ++ line :: after)
            (.missingNewHeader (number + before.length + 1))
  | missingFileHeader {before after : List String} {line : String} :
      whole before → startsHunk line →
        FaultIn whole cutShort number (before ++ line :: after)
          (.missingFileHeader (number + before.length))
  | invalidHunkHeader {before after : List String} {line : String} :
      whole before → startsHunk line → HunkHeader.parse? line = none →
        FaultIn whole cutShort number (before ++ line :: after)
          (.invalidHunkHeader (number + before.length) line)
  | truncatedHunk {before after : List String} {line : String} {header : HunkHeader} :
      whole before → HunkHeader.parse? line = some header →
        FaultIn whole cutShort number (before ++ line :: after)
          (.truncatedHunk (number + before.length))
  | hunkOverflow {before after : List String} {line : String} {start : Nat} :
      cutShort start before → start < before.length → onOldSide line ∨ onNewSide line →
        FaultIn whole cutShort number (before ++ line :: after)
          (.hunkOverflow (number + before.length))

/-- A fault in lines is one in these lines after others. -/
theorem FaultIn.append_left {whole whole' : List String → Prop}
    {cutShort cutShort' : Nat → List String → Prop} {number : Nat} {ls : List String}
    {e : ParseError} {taken : List String}
    (h : FaultIn whole cutShort (number + taken.length) ls e)
    (hwhole : ∀ before, before <+: ls → whole before → whole' (taken ++ before))
    (hcut : ∀ start before, before <+: ls → cutShort start before →
      cutShort' (taken.length + start) (taken ++ before)) :
    FaultIn whole' cutShort' number (taken ++ ls) e := by
  have hlength : ∀ before : List String,
      number + taken.length + before.length = number + (taken ++ before).length := by
    intro before
    rw [List.length_append, Nat.add_assoc]
  have hshorter : ∀ (before : List String) (line : String) (after : List String),
      before <+: before ++ line :: after := fun before line after => List.prefix_append _ _
  cases h with
  | @unexpectedLine before after line hbefore hfile hblank =>
      rw [← List.append_assoc, hlength]
      exact .unexpectedLine (hwhole before (hshorter ..) hbefore) hfile hblank
  | @missingNewHeader before after line hbefore hold hnew =>
      rw [← List.append_assoc, hlength]
      exact .missingNewHeader (hwhole before (hshorter ..) hbefore) hold hnew
  | @missingFileHeader before after line hbefore hhunk =>
      rw [← List.append_assoc, hlength]
      exact .missingFileHeader (hwhole before (hshorter ..) hbefore) hhunk
  | @invalidHunkHeader before after line hbefore hhunk hheader =>
      rw [← List.append_assoc, hlength]
      exact .invalidHunkHeader (hwhole before (hshorter ..) hbefore) hhunk hheader
  | @truncatedHunk before after line header hbefore hheader =>
      rw [← List.append_assoc, hlength]
      exact .truncatedHunk (hwhole before (hshorter ..) hbefore) hheader
  | @hunkOverflow before after line start hbefore hstart hline =>
      rw [← List.append_assoc, hlength]
      refine .hunkOverflow (hcut start before (hshorter ..) hbefore) ?_ hline
      rw [List.length_append]
      exact Nat.add_lt_add_left hstart _

/-! ## Hunks -/

theorem takeBody_eq_error {start number old new : Nat} {ls : List String} {e : ParseError}
    (h : takeBody start number old new ls = .error e) :
    e = .truncatedHunk start ∨ ∃ before line after, ls = before ++ line :: after ∧
      e = .hunkOverflow (number + before.length) ∧ (onOldSide line ∨ onNewSide line) ∧
      takeBody start number old new before = .error (.truncatedHunk start) := by
  fun_induction takeBody start number old new ls with
  | case1 => cases h
  | case2 | case3 => exact .inl (Except.error.inj h).symm
  | case4 number old new hcounts line rest kind hkind hover =>
      have hline : onOldSide line ∨ onNewSide line := by
        have hsides := LineKind.counts_eq hkind
        rw [hsides.1, hsides.2] at hover
        by_contra hnone
        simp only [not_or, Bool.not_eq_true] at hnone
        simp [hnone] at hover
      refine .inr ⟨[], line, rest, rfl, (Except.error.inj h).symm, hline, ?_⟩
      rw [takeBody, if_neg hcounts]
  | case5 number old new hcounts line rest kind hkind hle ih =>
      rcases ih (map_eq_error_iff.1 h) with he | ⟨before, next, after, rfl, rfl, hnext, hbefore⟩
      · exact .inl he
      · refine .inr ⟨line :: before, next, after, rfl, ?_, hnext, ?_⟩
        · rw [List.length_cons, Nat.add_right_comm, Nat.add_assoc]
        · simp [takeBody, hcounts, hkind, hle, hbefore]

theorem takeHunk_eq_error {number : Nat} {line : String} {rest : List String} {e : ParseError}
    (h : takeHunk number line rest = .error e) :
    (HunkHeader.parse? line = none ∧ e = .invalidHunkHeader number line) ∨
      (∃ header, HunkHeader.parse? line = some header ∧ e = .truncatedHunk number) ∨
      ∃ before next after, rest = before ++ next :: after ∧
        e = .hunkOverflow (number + 1 + before.length) ∧ (onOldSide next ∨ onNewSide next) ∧
        takeHunk number line before = .error (.truncatedHunk number) := by
  rw [takeHunk] at h
  split at h
  · next hheader => exact .inl ⟨hheader, (Except.error.inj h).symm⟩
  · next header hheader =>
      rcases takeBody_eq_error (map_eq_error_iff.1 h) with
        he | ⟨before, next, after, hrest, he, hnext, hbefore⟩
      · exact .inr (.inl ⟨header, hheader, he⟩)
      · refine .inr (.inr ⟨before, next, after, hrest, he, hnext, ?_⟩)
        simp [takeHunk, hheader, hbefore]

theorem mem_head?_of_isPrefix {before left : List String} (h : before <+: left) {line : String}
    (hline : line ∈ before.head?) : line ∈ left.head? := by
  obtain ⟨after, rfl⟩ := h
  rw [Option.mem_def] at hline ⊢
  rw [List.head?_append, hline, Option.some_or]

/-- A hunk that was taken is taken also where the lines left stop early. -/
theorem takeHunk_of_isPrefix {number : Nat} {line : String} {rest left before : List String}
    {hunk : Hunk} (h : takeHunk number line rest = .ok (hunk, left)) (hbefore : before <+: left) :
    takeHunk number line (hunk.body ++ before) = .ok (hunk, before) := by
  obtain ⟨hheader, -, hwf, hnext⟩ := takeHunk_eq_ok_iff.1 h
  exact takeHunk_eq_ok_iff.2
    ⟨hheader, rfl, hwf, fun l hl => hnext l (mem_head?_of_isPrefix hbefore hl)⟩

/-- The lines hold hunks and nothing else. -/
def ReadsHunks (number : Nat) (ls : List String) : Prop :=
  ∃ hunks, takeHunks number ls = .ok (hunks, [])

/-- The lines end within the hunk whose header is after the first `start` ones. -/
def CutsHunks (number start : Nat) (ls : List String) : Prop :=
  takeHunks number ls = .error (.truncatedHunk (number + start))

theorem readsHunks_nil (number : Nat) : ReadsHunks number [] :=
  ⟨[], by rw [takeHunks]⟩

theorem faultIn_of_takeHunks {number : Nat} {ls : List String} {e : ParseError}
    (h : takeHunks number ls = .error e) :
    FaultIn (ReadsHunks number) (CutsHunks number) number ls e := by
  fun_induction takeHunks number ls with
  | case1 => cases h
  | case2 number line rest hline e' he =>
      obtain rfl := Except.error.inj h
      rcases takeHunk_eq_error he with
        ⟨hheader, rfl⟩ | ⟨header, hheader, rfl⟩ | ⟨before, next, after, rfl, rfl, hnext, hbefore⟩
      · exact @FaultIn.invalidHunkHeader _ _ _ [] _ _ (readsHunks_nil number) hline hheader
      · exact @FaultIn.truncatedHunk _ _ _ [] _ _ _ (readsHunks_nil number) hheader
      · have hcut : CutsHunks number 0 (line :: before) := by
          rw [CutsHunks, takeHunks_cons, if_pos hline, hbefore]
          rfl
        have hfault : FaultIn (ReadsHunks number) (CutsHunks number) number
            ((line :: before) ++ next :: after) _ :=
          .hunkOverflow hcut (Nat.zero_lt_succ _) hnext
        rwa [List.length_cons, Nat.add_comm before.length, ← Nat.add_assoc] at hfault
  | case3 number line rest hline hunk left hhunk ih =>
      obtain ⟨-, rfl, -⟩ := takeHunk_eq_ok_iff.1 hhunk
      have hnumber : ∀ before : List String,
          number + ((line :: (hunk.body ++ before)).length - before.length) =
            number + (line :: hunk.body).length := by
        intro before
        simp only [List.length_cons, List.length_append]
        omega
      -- the hunk is taken in the same way wherever the lines after it stop
      have hstep : ∀ before, before <+: left →
          takeHunks number (line :: hunk.body ++ before) =
            (takeHunks (number + (line :: hunk.body).length) before).map
              fun read => (hunk :: read.1, read.2) := by
        intro before hbefore
        rw [List.cons_append, takeHunks_cons, if_pos hline, takeHunk_of_isPrefix hhunk hbefore,
          bind_ok]
        simp only [hnumber]
      rw [hnumber] at ih h
      refine (ih (map_eq_error_iff.1 h)).append_left ?_ ?_
      · intro before hbefore hwhole
        obtain ⟨hunks, hhunks⟩ := hwhole
        exact ⟨hunk :: hunks, by rw [hstep before hbefore, hhunks, map_ok]⟩
      · intro start before hbefore hcut
        rw [CutsHunks, hstep before hbefore, hcut, map_error, Nat.add_assoc]
  | case4 => cases h

/-! ## Sections -/

/-- The lines hold sections and nothing else. -/
def ReadsFiles (number : Nat) (ls : List String) : Prop :=
  ∃ files, takeFiles number ls = .ok files

/-- The lines end within the hunk whose header is after the first `start` ones. -/
def CutsFiles (number start : Nat) (ls : List String) : Prop :=
  takeFiles number ls = .error (.truncatedHunk (number + start))

theorem readsFiles_nil (number : Nat) : ReadsFiles number [] :=
  ⟨[], by rw [takeFiles]⟩

theorem takePatch_eq_error {number : Nat} {extended ls : List String} {old : String}
    {e : ParseError} (h : takePatch number extended old ls = .error e) :
    (e = .missingNewHeader number ∧
        ∀ next ∈ ls.head?, Text.startsWith "+++ " next = false) ∨
      ∃ new rest, ls = ("+++ " ++ new) :: rest ∧ takeHunks (number + 1) rest = .error e := by
  unfold takePatch at h
  split at h
  · exact .inl ⟨(Except.error.inj h).symm, by simp⟩
  · next line rest =>
      split at h
      · next hline =>
          refine .inl ⟨(Except.error.inj h).symm, fun next hnext => ?_⟩
          obtain rfl := Option.some.inj hnext
          exact Text.dropStart?_eq_none.1 hline
      · next new hline =>
          obtain rfl := Text.dropStart?_eq_some.1 hline
          exact .inr ⟨new, rest, rfl, map_eq_error_iff.1 h⟩

/-- A fault after the `---` line of a section. `lead` are the lines before that line, and `next` is
the number from which reading goes on after the section. -/
theorem faultIn_of_takePatch {number : Nat} {lead extended ls : List String} {old : String}
    {e : ParseError} (hlead : ReadsFiles number lead) (next : List String → List String → Nat)
    (hread : ∀ ls, takeFiles number (lead ++ ("--- " ++ old) :: ls) =
      (takePatch (number + lead.length + 1) extended old ls).bind fun (file, left) =>
        (takeFiles (next ls left) left).map (file :: ·))
    (h : takePatch (number + lead.length + 1) extended old ls = .error e) :
    FaultIn (ReadsFiles number) (CutsFiles number) number (lead ++ ("--- " ++ old) :: ls) e := by
  rcases takePatch_eq_error h with ⟨rfl, hnew⟩ | ⟨new, rest, rfl, hhunks⟩
  · exact .missingNewHeader hlead (Text.startsWith_append _ _) hnew
  · have hpatch : ∀ before, takeFiles number (lead ++ ["--- " ++ old, "+++ " ++ new] ++ before) =
        (takeHunks (number + lead.length + 1 + 1) before).bind fun read =>
          (takeFiles (next (("+++ " ++ new) :: before) read.2) read.2).map
            ({ extended
               old := Side.parse old
               new := Side.parse new
               hasHeader := true
               hunks := read.1 } :: ·) := by
      intro before
      simp only [List.append_assoc, List.cons_append, List.nil_append, hread, takePatch,
        Text.dropStart?_append]
      cases takeHunks (number + lead.length + 1 + 1) before <;> rfl
    have hlength : number + lead.length + 1 + 1 =
        number + (lead ++ ["--- " ++ old, "+++ " ++ new]).length := by
      simp only [List.length_append, List.length_cons, List.length_nil]
      omega
    have hfault := faultIn_of_takeHunks hhunks
    rw [hlength] at hpatch hfault
    suffices happend : FaultIn (ReadsFiles number) (CutsFiles number) number
        (lead ++ ["--- " ++ old, "+++ " ++ new] ++ rest) e by simpa using happend
    refine hfault.append_left ?_ ?_
    · intro before _ hwhole
      obtain ⟨hunks, hhunks⟩ := hwhole
      simp only [ReadsFiles, hpatch before, hhunks, bind_ok, takeFiles]
      exact ⟨_, rfl⟩
    · intro start before _ hcut
      rw [CutsFiles, hpatch before, hcut, Nat.add_assoc]
      rfl

theorem takeExtended_nil_of_tail {later binary : List String} (h : ExtendedTail later binary) :
    takeExtended (later ++ binary) = (later, binary, []) := by
  have hstops : ExtendedStops later [] := by simp [ExtendedStops]
  simpa using takeExtended_append h hstops

theorem faultIn_of_takeFile {number : Nat} {line : String} {rest : List String} {e : ParseError}
    (hstart : startsFile line) (h : takeFile number line rest = .error e) :
    FaultIn (ReadsFiles number) (CutsFiles number) number (line :: rest) e := by
  unfold takeFile at h
  split at h
  · next old hold =>
      obtain rfl := Text.dropStart?_eq_some.1 hold
      refine @faultIn_of_takePatch number [] _ _ _ _ (readsFiles_nil number)
        (fun ls left => number + ((("--- " ++ old) :: ls).length - left.length)) (fun ls => ?_) h
      rw [List.nil_append, takeFiles_cons, if_pos hstart, takeFile, hold]
      rfl
  · next hold =>
      have hdiff : Text.startsWith "diff " line := by
        simpa [startsFile, Text.dropStart?_eq_none.1 hold] using hstart
      generalize hparts : takeExtended rest = parts at h
      obtain ⟨later, binary, left⟩ := parts
      obtain ⟨htail, rfl, hstops⟩ := takeExtended_sound hparts
      have hlead : ReadsFiles number (line :: (later ++ binary)) := by
        rw [ReadsFiles, takeFiles_cons, if_pos hstart, takeFile, hold]
        simp only [takeExtended_nil_of_tail htail, bind_ok, takeFiles]
        exact ⟨_, rfl⟩
      have hnext : ∀ more : List String,
          number + 1 + ((later ++ binary ++ more).length - more.length) =
            number + (line :: (later ++ binary)).length := by
        intro more
        simp only [List.length_append, List.length_cons]
        omega
      simp only [hnext] at h
      cases left with
      | nil => cases h
      | cons l left =>
          -- a `---` line goes on with the section, and a hunk cannot come without one
          simp only at h
          split at h
          · next old hold' =>
              obtain rfl := Text.dropStart?_eq_some.1 hold'
              refine faultIn_of_takePatch hlead
                (fun ls left => number +
                  ((line :: (later ++ binary ++ ("--- " ++ old) :: ls)).length - left.length))
                (fun ls => ?_) h
              have hstops' : ExtendedStops later (("--- " ++ old) :: ls) := by
                simpa [ExtendedStops] using hstops
              have htake := takeExtended_append htail hstops'
              rw [List.cons_append, takeFiles_cons, if_pos hstart, takeFile, hold]
              simp only [htake, hnext, Text.dropStart?_append]
          · split at h
            · next hhunk =>
                obtain rfl := Except.error.inj h
                exact .missingFileHeader hlead hhunk
            · cases h

theorem File.EndsAt.of_isPrefix {file : File} {before left : List String} (h : file.EndsAt left)
    (hbefore : before <+: left) : file.EndsAt before :=
  fun line hline => h line (mem_head?_of_isPrefix hbefore hline)

theorem faultIn_of_takeFiles {number : Nat} {ls : List String} {e : ParseError}
    (h : takeFiles number ls = .error e) :
    FaultIn (ReadsFiles number) (CutsFiles number) number ls e := by
  fun_induction takeFiles number ls with
  | case1 => cases h
  | case2 number line rest hline e' he =>
      obtain rfl := Except.error.inj h
      exact faultIn_of_takeFile hline he
  | case3 number line rest hline file left hfile ih =>
      obtain ⟨hwf, ⟨ls, hls, hlines⟩, hends⟩ := takeFile_sound hline hfile
      have hnumber : ∀ before : List String,
          number + ((ls ++ before).length - before.length) = number + ls.length := by
        intro before
        rw [List.length_append, Nat.add_sub_cancel]
      have hstep : ∀ before, before <+: left → takeFiles number (ls ++ before) =
          (takeFiles (number + ls.length) before).map (file :: ·) := by
        intro before hbefore
        obtain ⟨first, more, rfl, hfirst, htake⟩ :=
          takeFile_append hwf hls (hends.of_isPrefix hbefore)
        rw [← hnumber before, List.cons_append, takeFiles_cons, if_pos hfirst, htake, bind_ok]
      rw [hlines] at ih h ⊢
      rw [hnumber] at ih h
      refine (ih (map_eq_error_iff.1 h)).append_left ?_ ?_
      · intro before hbefore hwhole
        obtain ⟨files, hfiles⟩ := hwhole
        exact ⟨file :: files, by rw [hstep before hbefore, hfiles, map_ok]⟩
      · intro start before hbefore hcut
        rw [CutsFiles, hstep before hbefore, hcut, map_error, Nat.add_assoc]
  | case4 number line rest hline hblank ih =>
      have hstep : ∀ before, takeFiles number (line :: before) = takeFiles (number + 1) before := by
        intro before
        rw [takeFiles_cons, if_neg hline, if_pos hblank]
      have hfault : FaultIn (ReadsFiles (number + 1)) (CutsFiles (number + 1))
          (number + [line].length) rest e := ih h
      refine hfault.append_left ?_ ?_
      · intro before _ hwhole
        obtain ⟨files, hfiles⟩ := hwhole
        exact ⟨files, (hstep before).trans hfiles⟩
      · intro start before _ hcut
        refine (hstep before).trans (hcut.trans ?_)
        rw [List.length_singleton, Nat.add_assoc]
  | case5 number line rest hline hblank =>
      obtain rfl := Except.error.inj h
      rw [Bool.not_eq_true] at hline hblank
      exact @FaultIn.unexpectedLine _ _ _ [] _ _ (readsFiles_nil number) hline hblank

/-! ## Faults of a text -/

/-- The text that is cut before the line is a diff. -/
def ReadableBefore (number : Nat) (text : String) : Prop :=
  ∃ before files, Text.CutBefore number text before ∧ parse before = .ok files

/-- What a fault says of the text that it was found in. -/
def ParseError.PointsInto (text : String) : ParseError → Prop
  | unexpectedLine number line =>
      Text.line? text number = some line ∧ Text.isBlankText line = false ∧
        Text.startsWith "diff " line = false ∧ Text.startsWith "--- " line = false ∧
        ReadableBefore number text
  | missingNewHeader number =>
      (∃ line, Text.line? text (number - 1) = some line ∧ Text.startsWith "--- " line) ∧
        (∀ line, Text.line? text number = some line → Text.startsWith "+++ " line = false) ∧
        ReadableBefore (number - 1) text
  | missingFileHeader number =>
      ∃ line, Text.line? text number = some line ∧ Text.startsWith "@@ " line ∧
        ReadableBefore number text
  | invalidHunkHeader number line =>
      Text.line? text number = some line ∧ Text.startsWith "@@ " line ∧
        (∀ header, ¬ HunkHeader.Spells line header) ∧ ReadableBefore number text
  | truncatedHunk number =>
      ∃ line header, Text.line? text number = some line ∧ HunkHeader.Spells line header ∧
        ReadableBefore number text
  | hunkOverflow number =>
      ∃ line, Text.line? text number = some line ∧ (onOldSide line ∨ onNewSide line) ∧
        ∃ before start, Text.CutBefore number text before ∧ start < number ∧
          parse before = .error (.truncatedHunk start)

theorem readableBefore_of_readsFiles {text line : String} {before after : List String}
    (h : Text.lines text = before ++ line :: after) (hbefore : ReadsFiles 1 before) :
    ReadableBefore (before.length + 1) text := by
  obtain ⟨files, hfiles⟩ := hbefore
  exact ⟨_, files, Text.cutBefore_unlines h, by rw [parse, Text.lines_cut h, hfiles]⟩

/-- A fault points at a line of the text, or at the end of it where a `+++` line is missing there.
The text before is a diff, and the line cannot come after it. A line too many in a hunk is one of
the lines that count, and the text before it ends within a hunk. -/
theorem parse_error_pointsInto {text : String} {e : ParseError} (h : parse text = .error e) :
    1 ≤ e.number ∧
      (e.number ≤ (Text.lines text).length ∨
        e = .missingNewHeader ((Text.lines text).length + 1)) ∧
      e.PointsInto text := by
  have hfault := faultIn_of_takeFiles h
  generalize hls : Text.lines text = ls at hfault ⊢
  cases hfault with
  | unexpectedLine hbefore hfile hblank =>
      rw [startsFile, Bool.or_eq_false_iff] at hfile
      rw [Nat.add_comm]
      refine ⟨Nat.succ_pos _, .inl (by simp [ParseError.number]), Text.line?_before hls, hblank,
        hfile.1, hfile.2, readableBefore_of_readsFiles hls hbefore⟩
  | @missingNewHeader before after line hbefore hold hnew =>
      rw [Nat.add_comm 1]
      refine ⟨Nat.succ_pos _, ?_, ⟨line, Text.line?_before hls, hold⟩, fun next hnext => ?_,
        readableBefore_of_readsFiles hls hbefore⟩
      · cases after with
        | nil => exact .inr (by simp)
        | cons next after =>
            refine .inl ?_
            rw [ParseError.number, List.length_append, List.length_cons, List.length_cons]
            omega
      · rw [Text.line?_after hls] at hnext
        exact hnew next hnext
  | missingFileHeader hbefore hhunk =>
      rw [Nat.add_comm]
      exact ⟨Nat.succ_pos _, .inl (by simp [ParseError.number]), _, Text.line?_before hls, hhunk,
        readableBefore_of_readsFiles hls hbefore⟩
  | invalidHunkHeader hbefore hhunk hheader =>
      rw [Nat.add_comm]
      refine ⟨Nat.succ_pos _, .inl (by simp [ParseError.number]), Text.line?_before hls, hhunk,
        fun header hspells => ?_, readableBefore_of_readsFiles hls hbefore⟩
      simp [HunkHeader.parse?_eq_some_iff.2 hspells] at hheader
  | truncatedHunk hbefore hheader =>
      rw [Nat.add_comm]
      exact ⟨Nat.succ_pos _, .inl (by simp [ParseError.number]), _, _, Text.line?_before hls,
        HunkHeader.parse?_eq_some_iff.1 hheader, readableBefore_of_readsFiles hls hbefore⟩
  | @hunkOverflow before after line start hcut hstart hline =>
      rw [Nat.add_comm]
      refine ⟨Nat.succ_pos _, .inl (by simp [ParseError.number]), _, Text.line?_before hls, hline,
        _, 1 + start, Text.cutBefore_unlines hls, by omega, ?_⟩
      rw [parse, Text.lines_cut hls]
      exact hcut

/-- A hunk with a second removed line after a marker. -/
def overfullHunk : String :=
  Text.unlines
    ["diff --git a/x b/x", "old mode 100644", "--- a/x", "+++ b/x", "@@ -1 +1 @@", "-a", "\\ mark",
      "-b", "+c"]

/-- The line too many is the eighth, and the line that is missing is the one after the second. -/
theorem parse_error_pointsInto_overfullHunk :
    (parse overfullHunk = .error (.hunkOverflow 8) ∧
        ParseError.PointsInto overfullHunk (.hunkOverflow 8)) ∧
      parse "\n--- a/x" = .error (.missingNewHeader 3) ∧
        ParseError.PointsInto "\n--- a/x" (.missingNewHeader 3) := by
  have hover : parse overfullHunk = .error (.hunkOverflow 8) := by decide +kernel
  have hmissing : parse "\n--- a/x" = .error (.missingNewHeader 3) := by decide +kernel
  exact ⟨⟨hover, (parse_error_pointsInto hover).2.2⟩, hmissing,
    (parse_error_pointsInto hmissing).2.2⟩

end Changesets.Diff
