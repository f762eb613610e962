import Changesets.Diff.Parser
import Changesets.Diff.Printer
import Changesets.Proofs.Diff.Header
import Changesets.Proofs.Text.Run

/-!
Which lines are a hunk. `takeHunk_eq_ok_iff` says without line numbers and without the way of
reading what is taken for one: a header that denotes the hunk's, a body of lines that a body may
hold with the counts of the header, and no marker after it. `takeHunks_sound` and `takeHunks_append`
say the same of all hunks that follow each other.
-/
namespace Changesets.Diff

theorem HunkHeader.startsHunk_of_parse? {line : String} {header : HunkHeader}
    (h : HunkHeader.parse? line = some header) : startsHunk line := by
  obtain ⟨old, new, tail, rfl, -⟩ := HunkHeader.parse?_eq_some_iff.1 h
  rw [startsHunk, Text.startsWith_iff]
  exact ⟨'-' :: (old ++ " +" ++ new ++ " @@" ++ tail).toList, by simp⟩

/-! ## Bodies -/

/-- The lines that a body may hold: empty ones, and those with one of the four marks in front. -/
def isBodyLine (line : String) : Bool :=
  line.toList.head?.all fun c => c ∈ [' ', '-', '+', '\\']

theorem isBodyLine_iff {line : String} : isBodyLine line ↔ (LineKind.ofLine? line).isSome := by
  rw [isBodyLine, LineKind.ofLine?]
  generalize line.toList = cs
  cases cs with
  | nil => simp
  | cons c cs => split <;> simp_all

theorem ofLine?_eq_marker {line : String} :
    LineKind.ofLine? line = some .marker ↔ isMarker line := by
  rw [isMarker, Text.startsWith_iff, LineKind.ofLine?]
  generalize line.toList = cs
  cases cs with
  | nil => simp
  | cons c cs => split <;> simp_all [eq_comm]

theorem isBodyLine_of_isMarker {line : String} (h : isMarker line) : isBodyLine line := by
  rw [isBodyLine_iff, ofLine?_eq_marker.2 h]
  rfl

theorem not_diff_of_isBodyLine {line : String} (h : isBodyLine line) :
    Text.startsWith "diff " line = false := by
  rw [Bool.eq_false_iff]
  intro hdiff
  obtain ⟨rest, hrest⟩ := Text.startsWith_iff.1 hdiff
  have hhead : line.toList.head? = some 'd' := by simp [← hrest]
  simp [isBodyLine, hhead] at h

theorem countLines_cons {line : String} {kind : LineKind} (h : LineKind.ofLine? line = some kind)
    (count : LineKind → Nat) (body : List String) :
    countLines count (line :: body) = count kind + countLines count body := by
  rw [countLines, h, Option.elim_some]

theorem countLines_append (count : LineKind → Nat) (body more : List String) :
    countLines count (body ++ more) = countLines count body + countLines count more := by
  induction body with
  | nil => rw [List.nil_append, countLines, Nat.zero_add]
  | cons line body ih => rw [List.cons_append, countLines, countLines, ih, Nat.add_assoc]

@[simp] theorem oldLines_nil : oldLines [] = 0 := rfl

@[simp] theorem newLines_nil : newLines [] = 0 := rfl

theorem oldLines_cons {line : String} {kind : LineKind} (h : LineKind.ofLine? line = some kind)
    (body : List String) : oldLines (line :: body) = kind.oldLines + oldLines body :=
  countLines_cons h LineKind.oldLines body

theorem newLines_cons {line : String} {kind : LineKind} (h : LineKind.ofLine? line = some kind)
    (body : List String) : newLines (line :: body) = kind.newLines + newLines body :=
  countLines_cons h LineKind.newLines body

@[simp] theorem oldLines_append (body more : List String) :
    oldLines (body ++ more) = oldLines body + oldLines more :=
  countLines_append LineKind.oldLines body more

@[simp] theorem newLines_append (body more : List String) :
    newLines (body ++ more) = newLines body + newLines more :=
  countLines_append LineKind.newLines body more

theorem counts_eq_zero_iff {body : List String} (h : ∀ line ∈ body, isBodyLine line) :
    oldLines body = 0 ∧ newLines body = 0 ↔ ∀ line ∈ body, isMarker line := by
  induction body with
  | nil => simp
  | cons line body ih =>
      obtain ⟨kind, hkind⟩ := Option.isSome_iff_exists.1 (isBodyLine_iff.1 (h line (by simp)))
      have ih := ih fun l hl => h l (by simp [hl])
      have hmark : isMarker line ↔ kind = .marker := by
        rw [← ofLine?_eq_marker, hkind, Option.some.injEq]
      rw [oldLines_cons hkind, newLines_cons hkind, List.forall_mem_cons, ← ih, hmark]
      cases kind <;> simp [LineKind.oldLines, LineKind.newLines]

theorem counts_markers {markers : List String} (h : ∀ line ∈ markers, isMarker line) :
    oldLines markers = 0 ∧ newLines markers = 0 :=
  (counts_eq_zero_iff fun line hline => isBodyLine_of_isMarker (h line hline)).2 h

/-- A body without markers at its end. -/
def EndsCounted (body : List String) : Prop :=
  ∀ line ∈ body.getLast?, isMarker line = false

theorem EndsCounted.tail {line : String} {body : List String} (h : EndsCounted (line :: body)) :
    EndsCounted body := by
  intro last hlast
  apply h last
  rw [Option.mem_def] at hlast ⊢
  rw [List.getLast?_cons, hlast, Option.getD_some]

theorem EndsCounted.cons {line : String} {body : List String} (h : EndsCounted body)
    (hline : body = [] → isMarker line = false) : EndsCounted (line :: body) := by
  intro last hlast
  cases hb : body.getLast? with
  | none =>
      have hnil := List.getLast?_eq_none_iff.1 hb
      obtain rfl : line = last := by simpa [hnil] using hlast
      exact hline hnil
  | some l =>
      obtain rfl : l = last := by simpa [List.getLast?_cons, hb] using hlast
      exact h l hb

/-- Some line of a body that ends counted does count. -/
theorem EndsCounted.eq_nil_of_counts {body : List String} (h : EndsCounted body)
    (hbody : ∀ line ∈ body, isBodyLine line) (hz : oldLines body = 0 ∧ newLines body = 0) :
    body = [] := by
  cases hb : body.getLast? with
  | none => exact List.getLast?_eq_none_iff.1 hb
  | some last =>
      have hmark := (counts_eq_zero_iff hbody).1 hz last (List.mem_of_getLast? hb)
      simp [h last hb] at hmark

theorem takeBody_sound {start number old new : Nat} {ls body left : List String}
    (h : takeBody start number old new ls = .ok (body, left)) :
    ls = body ++ left ∧ (∀ line ∈ body, isBodyLine line) ∧ oldLines body = old ∧
      newLines body = new ∧ EndsCounted body := by
  fun_induction takeBody start number old new ls generalizing body with
  | case1 number old new ls hcounts =>
      cases h
      simp [EndsCounted, hcounts]
  | case2 | case3 | case4 => cases h
  | case5 number old new hcounts line rest kind hkind hle ih =>
      obtain ⟨⟨body, _⟩, hrest, he⟩ := map_eq_ok.1 h
      cases he
      obtain ⟨rfl, hbody, hold, hnew, hends⟩ := ih hrest
      refine ⟨rfl, ?_, ?_, ?_, hends.cons ?_⟩
      · simp only [List.forall_mem_cons]
        exact ⟨isBodyLine_iff.2 (by rw [hkind]; rfl), hbody⟩
      · rw [oldLines_cons hkind, hold]
        omega
      · rw [newLines_cons hkind, hnew]
        omega
      · intro heq
        subst heq
        rw [Bool.eq_false_iff, ne_eq, ← ofLine?_eq_marker, hkind]
        intro hmarker
        cases hmarker
        -- a marker as the last line would leave both counts as they were, at zero
        exact hcounts ⟨hold.symm, hnew.symm⟩

theorem takeBody_append {body : List String} (hbody : ∀ line ∈ body, isBodyLine line)
    (hends : EndsCounted body) (start number : Nat) (left : List String) :
    takeBody start number (oldLines body) (newLines body) (body ++ left) = .ok (body, left) := by
  induction body generalizing number with
  | nil => cases left <;> simp [takeBody]
  | cons line body ih =>
      obtain ⟨kind, hkind⟩ := Option.isSome_iff_exists.1 (isBodyLine_iff.1 (hbody line (by simp)))
      have hcounts : ¬ (oldLines (line :: body) = 0 ∧ newLines (line :: body) = 0) :=
        fun hz => List.cons_ne_nil _ _ (hends.eq_nil_of_counts hbody hz)
      have ih := ih (fun l hl => hbody l (by simp [hl])) hends.tail (number + 1)
      rw [List.cons_append, takeBody, if_neg hcounts]
      simp [hkind, oldLines_cons hkind, newLines_cons hkind, ih, Except.map]

/-- What `takeBody` takes: the shortest run of body lines with the two counts. It ends with a line
that counts, since the markers after that are left. -/
theorem takeBody_eq_ok_iff {start number old new : Nat} {ls body left : List String} :
    takeBody start number old new ls = .ok (body, left) ↔
      ls = body ++ left ∧ (∀ line ∈ body, isBodyLine line) ∧ oldLines body = old ∧
        newLines body = new ∧ EndsCounted body := by
  refine ⟨takeBody_sound, ?_⟩
  intro hspec
  obtain ⟨rfl, hbody, rfl, rfl, hends⟩ := hspec
  exact takeBody_append hbody hends start number left

/-! ## Hunks -/

theorem exists_counted_append_markers (body : List String) :
    ∃ counted markers, body = counted ++ markers ∧ EndsCounted counted ∧
      ∀ line ∈ markers, isMarker line := by
  obtain ⟨hmarkers, hcounted⟩ := mem_takeWhile_dropWhile isMarker body.reverse
  refine ⟨(body.reverse.dropWhile isMarker).reverse, (body.reverse.takeWhile isMarker).reverse,
    ?_, ?_, ?_⟩
  · rw [← List.reverse_append, List.takeWhile_append_dropWhile, List.reverse_reverse]
  · intro line hline
    rw [List.getLast?_reverse] at hline
    exact hcounted line hline
  · intro line hline
    exact hmarkers line (List.mem_reverse.1 hline)

/-- A hunk whose body holds body lines only, and as many on each side as its header declares. -/
structure Hunk.WellFormed (hunk : Hunk) : Prop where
  bodyLines : ∀ line ∈ hunk.body, isBodyLine line
  consistent : hunk.Consistent

instance (hunk : Hunk) : Decidable hunk.WellFormed :=
  decidable_of_iff ((∀ line ∈ hunk.body, isBodyLine line) ∧ hunk.Consistent)
    ⟨fun h => ⟨h.1, h.2⟩, fun h => ⟨h.bodyLines, h.consistent⟩⟩

theorem takeHunk_eq_ok_iff {number : Nat} {line : String} {rest left : List String}
    {hunk : Hunk} :
    takeHunk number line rest = .ok (hunk, left) ↔
      HunkHeader.parse? line = some hunk.header ∧ rest = hunk.body ++ left ∧ hunk.WellFormed ∧
        ∀ l ∈ left.head?, isMarker l = false := by
  rw [takeHunk]
  constructor
  · intro h
    split at h
    · cases h
    · next header hheader =>
        obtain ⟨⟨counted, after⟩, hbody, he⟩ := map_eq_ok.1 h
        cases he
        obtain ⟨rfl, hlines, hold, hnew, -⟩ := takeBody_eq_ok_iff.1 hbody
        obtain ⟨hmarkers, hleft⟩ := mem_takeWhile_dropWhile isMarker after
        have hzero := counts_markers hmarkers
        refine ⟨hheader, ?_, ⟨?_, ?_⟩, hleft⟩
        · rw [List.append_assoc, List.takeWhile_append_dropWhile]
        · intro l hl
          rcases List.mem_append.1 hl with hl | hl
          · exact hlines l hl
          · exact isBodyLine_of_isMarker (hmarkers l hl)
        · simp [Hunk.Consistent, hold, hnew, hzero]
  · intro hspec
    obtain ⟨hheader, rfl, ⟨hlines, hold, hnew⟩, hleft⟩ := hspec
    obtain ⟨counted, markers, hbody, hends, hmarkers⟩ := exists_counted_append_markers hunk.body
    have hzero := counts_markers hmarkers
    have htake := takeBody_append (fun l hl => hlines l (by simp [hbody, hl])) hends number
      (number + 1) (markers ++ left)
    obtain ⟨htaken, hdropped⟩ := takeWhile_append_of_head hmarkers hleft
    have hcounts : oldLines counted = hunk.header.old.count.toNat ∧
        newLines counted = hunk.header.new.count.toNat := by
      simpa [hbody, hzero] using And.intro hold hnew
    rw [hcounts.1, hcounts.2, ← List.append_assoc, ← hbody] at htake
    simp only [hheader, htake, Except.map, htaken, hdropped, ← hbody]

/-- The lines that denote a list of hunks: each header in any of its spellings, each body as it
is. -/
inductive HunkLines : List Hunk → List String → Prop
  | nil : HunkLines [] []
  | cons {hunk : Hunk} {hunks : List Hunk} {header : String} {ls : List String} :
      HunkHeader.parse? header = some hunk.header → HunkLines hunks ls →
        HunkLines (hunk :: hunks) (header :: hunk.body ++ ls)

theorem hunkLines_toLines (hunks : List Hunk) : HunkLines hunks (hunks.flatMap Hunk.toLines) := by
  induction hunks with
  | nil => exact .nil
  | cons hunk hunks ih => exact .cons (HunkHeader.parse?_print hunk.header) ih

theorem HunkLines.not_diff {hunks : List Hunk} {ls : List String} (h : HunkLines hunks ls)
    (hwf : ∀ hunk ∈ hunks, hunk.WellFormed) :
    ∀ line ∈ ls, Text.startsWith "diff " line = false := by
  induction h with
  | nil => simp
  | @cons hunk hunks header ls hheader _ ih =>
      rw [List.forall_mem_cons] at hwf
      rw [List.cons_append, List.forall_mem_cons, List.forall_mem_append]
      refine ⟨?_, fun line hline => ?_, ih hwf.2⟩
      · exact Text.startsWith_eq_false (HunkHeader.startsHunk_of_parse? hheader) (by decide)
      · exact not_diff_of_isBodyLine (hwf.1.bodyLines line hline)

theorem isMarker_of_startsHunk {line : String} (h : startsHunk line) : isMarker line = false :=
  Text.startsWith_eq_false h (by decide)

theorem takeHunks_sound {number : Nat} {ls left : List String} {hunks : List Hunk}
    (h : takeHunks number ls = .ok (hunks, left)) :
    (∃ written, HunkLines hunks written ∧ ls = written ++ left) ∧
      (∀ hunk ∈ hunks, hunk.WellFormed) ∧
      ∀ line ∈ left.head?, startsHunk line = false ∧ (hunks ≠ [] → isMarker line = false) := by
  fun_induction takeHunks number ls generalizing hunks with
  | case1 number =>
      cases h
      exact ⟨⟨[], .nil, rfl⟩, by simp⟩
  | case2 => cases h
  | case3 number line rest hline hunk middle hhunk ih =>
      obtain ⟨⟨hunks, _⟩, hrest, he⟩ := map_eq_ok.1 h
      cases he
      obtain ⟨hheader, rfl, hwf, hmarker⟩ := takeHunk_eq_ok_iff.1 hhunk
      obtain ⟨⟨written, hwritten, rfl⟩, hwfs, hnext⟩ := ih hrest
      refine ⟨⟨_, .cons hheader hwritten, by simp⟩, List.forall_mem_cons.2 ⟨hwf, hwfs⟩, ?_⟩
      intro l hl
      refine ⟨(hnext l hl).1, fun _ => ?_⟩
      cases hwritten with
      | nil => exact hmarker l hl
      | cons _ _ => exact (hnext l hl).2 (List.cons_ne_nil _ _)
  | case4 number line rest hline =>
      cases h
      exact ⟨⟨[], .nil, rfl⟩, by simpa using hline⟩

theorem takeHunks_append {hunks : List Hunk} {written : List String}
    (h : HunkLines hunks written) (hwf : ∀ hunk ∈ hunks, hunk.WellFormed) (number : Nat)
    {left : List String}
    (hleft : ∀ line ∈ left.head?,
      startsHunk line = false ∧ (hunks ≠ [] → isMarker line = false)) :
    takeHunks number (written ++ left) = .ok (hunks, left) := by
  induction h generalizing number with
  | nil =>
      cases left with
      | nil => simp [takeHunks]
      | cons line left => simp [takeHunks, (hleft line rfl).1]
  | @cons hunk hunks header ls hheader hls ih =>
      have hnext : ∀ line ∈ (ls ++ left).head?, isMarker line = false := by
        cases hls with
        | nil => exact fun line hline => (hleft line hline).2 (List.cons_ne_nil _ _)
        | cons hheader' _ =>
            simpa using isMarker_of_startsHunk (HunkHeader.startsHunk_of_parse? hheader')
      have htake : takeHunk number header (hunk.body ++ (ls ++ left)) = .ok (hunk, ls ++ left) :=
        takeHunk_eq_ok_iff.2 ⟨hheader, rfl, hwf hunk (by simp), hnext⟩
      have ih := fun n => ih (fun k hk => hwf k (by simp [hk])) n
        fun line hline => ⟨(hleft line hline).1, fun _ => (hleft line hline).2 (by simp)⟩
      rw [List.cons_append, List.cons_append, List.append_assoc, takeHunks,
        if_pos (HunkHeader.startsHunk_of_parse? hheader)]
      split
      · next e he => simp [htake] at he
      · next k after hk =>
          rw [htake] at hk
          cases hk
          simp [ih, Except.map]

end Changesets.Diff
