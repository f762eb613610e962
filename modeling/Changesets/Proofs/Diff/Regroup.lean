import Changesets.Proofs.Diff.RoundTrip

/-!
What reading makes of sections that the text does not keep apart. A section without header lines
takes in a plain one right after it: as more lines of its binary patch if it has one, else as the
header lines and hunks that it lacks. `parse_unlines_eq_regroup` says that nothing else changes, so
sections are read back as they were exactly if they are separated.
-/
namespace Changesets.Diff

/-- The one section that a section without header lines and a plain one after it are read as. -/
def File.absorb (file next : File) : File :=
  if file.isBinary then { file with binaryPatch := file.binaryPatch ++ next.toLines }
  else { next with extended := file.extended }

/-- The sections of the text of `file` and the sections after it. -/
def regroupFrom (file : File) : List File → List File
  | [] => [file]
  | next :: rest =>
    if file.hasHeader = false ∧ next.extended = [] then regroupFrom (file.absorb next) rest
    else file :: regroupFrom next rest

/-- The sections of the text of some sections. -/
def regroup : List File → List File
  | [] => []
  | file :: rest => regroupFrom file rest

/-! ## Taking in one section -/

theorem not_diff_of_mem_toLines {file : File} (h : file.WellFormed) (hext : file.extended = []) :
    ∀ line ∈ file.toLines, Text.startsWith "diff " line = false := by
  have hfilter := h.filter_diff file.denotes_toLines
  rw [hext, List.head?_nil, Option.toList_none, List.filter_eq_nil_iff] at hfilter
  exact fun line hline => by simpa using hfilter line hline

theorem File.WellFormed.hasHeader_of_extended {file : File} (h : file.WellFormed)
    (hext : file.extended = []) : file.hasHeader := by
  cases hheader : file.hasHeader with
  | true => rfl
  | false => exact absurd hext (h.headerless hheader).1

theorem File.WellFormed.absorb {file next : File} (hfile : file.WellFormed)
    (hnext : next.WellFormed) (hheader : file.hasHeader = false) (hext : next.extended = []) :
    (file.absorb next).WellFormed := by
  rw [File.absorb]
  split
  · next hbinary =>
      exact { hfile with
        binary := fun hb => ⟨hheader, List.forall_mem_append.2
          ⟨(hfile.binary hb).2, not_diff_of_mem_toLines hnext hext⟩⟩
        textual := fun hb => by cases hbinary.symm.trans hb }
  · next hbinary =>
      exact { hnext with
        first := hfile.first
        later := hfile.later
        announced := hfile.announced
        binary := fun hb => absurd hb hbinary
        textual := fun _ => hnext.binaryPatch_eq_nil hext
        headerless := fun hh => by simp [hnext.hasHeader_of_extended hext] at hh }

theorem toLines_absorb {file next : File} (hfile : file.WellFormed) (hnext : next.WellFormed)
    (hheader : file.hasHeader = false) (hext : next.extended = []) :
    (file.absorb next).toLines = file.toLines ++ next.toLines := by
  have hhunks := (hfile.headerless hheader).2.2.2.1
  rw [File.absorb]
  split
  · simp [File.toLines, hheader, hhunks]
  · next hbinary =>
      have hpatch : file.binaryPatch = [] := hfile.textual (by simpa using hbinary)
      simp [File.toLines, hheader, hhunks, hext, hpatch, hnext.binaryPatch_eq_nil hext]

theorem extended_absorb (file next : File) : (file.absorb next).extended = file.extended := by
  rw [File.absorb]
  split <;> rfl

/-! ## All sections -/

theorem wellFormed_regroupFrom {file : File} {rest : List File} (hfile : file.WellFormed)
    (hrest : ∀ next ∈ rest, next.WellFormed) :
    ∀ piece ∈ regroupFrom file rest, piece.WellFormed := by
  induction rest generalizing file with
  | nil => simpa [regroupFrom] using hfile
  | cons next rest ih =>
      rw [List.forall_mem_cons] at hrest
      rw [regroupFrom]
      split
      · next habsorb => exact ih (hfile.absorb hrest.1 habsorb.1 habsorb.2) hrest.2
      · exact List.forall_mem_cons.2 ⟨hfile, ih hrest.1 hrest.2⟩

theorem toLines_regroupFrom {file : File} {rest : List File} (hfile : file.WellFormed)
    (hrest : ∀ next ∈ rest, next.WellFormed) :
    (regroupFrom file rest).flatMap File.toLines = (file :: rest).flatMap File.toLines := by
  induction rest generalizing file with
  | nil => rfl
  | cons next rest ih =>
      rw [List.forall_mem_cons] at hrest
      rw [regroupFrom]
      split
      · next habsorb =>
          rw [ih (hfile.absorb hrest.1 habsorb.1 habsorb.2) hrest.2, List.flatMap_cons,
            toLines_absorb hfile hrest.1 habsorb.1 habsorb.2]
          simp
      · rw [List.flatMap_cons, ih hrest.1 hrest.2, ← List.flatMap_cons]

theorem regroupFrom_eq_cons (file : File) (rest : List File) :
    ∃ first later, regroupFrom file rest = first :: later ∧ first.extended = file.extended := by
  induction rest generalizing file with
  | nil => exact ⟨file, [], rfl, rfl⟩
  | cons next rest ih =>
      rw [regroupFrom]
      split
      · obtain ⟨first, later, h, hext⟩ := ih (file.absorb next)
        exact ⟨first, later, h, hext.trans (extended_absorb file next)⟩
      · exact ⟨file, _, rfl, rfl⟩

theorem separated_regroupFrom (file : File) (rest : List File) :
    Separated (regroupFrom file rest) := by
  induction rest generalizing file with
  | nil => exact .singleton file
  | cons next rest ih =>
      rw [regroupFrom]
      split
      · exact ih (file.absorb next)
      · next hkeep =>
          obtain ⟨first, later, h, hext⟩ := regroupFrom_eq_cons next rest
          have hnext := ih next
          rw [h] at hnext ⊢
          refine List.isChain_cons_cons.2 ⟨fun hheader => ?_, hnext⟩
          rw [hext]
          exact fun hnil => hkeep ⟨hheader, hnil⟩

theorem length_regroupFrom_le (file : File) (rest : List File) :
    (regroupFrom file rest).length ≤ (file :: rest).length := by
  induction rest generalizing file with
  | nil => rfl
  | cons next rest ih =>
      rw [regroupFrom]
      split
      · exact Nat.le_succ_of_le (ih (file.absorb next))
      · exact Nat.succ_le_succ (ih next)

theorem regroupFrom_of_separated {file : File} {rest : List File}
    (h : Separated (file :: rest)) : regroupFrom file rest = file :: rest := by
  induction rest generalizing file with
  | nil => rfl
  | cons next rest ih =>
      obtain ⟨hkeep, hrest⟩ := List.isChain_cons_cons.1 h
      rw [regroupFrom, if_neg fun habsorb => hkeep habsorb.1 habsorb.2, ih hrest]

theorem length_regroupFrom_lt {file : File} {rest : List File}
    (h : ¬ Separated (file :: rest)) : (regroupFrom file rest).length < (file :: rest).length := by
  induction rest generalizing file with
  | nil => exact absurd (.singleton file) h
  | cons next rest ih =>
      rw [regroupFrom]
      split
      · exact Nat.lt_succ_of_le (length_regroupFrom_le (file.absorb next) rest)
      · next hkeep =>
          refine Nat.succ_lt_succ (ih fun hrest => h ?_)
          exact List.isChain_cons_cons.2 ⟨fun hheader hext => hkeep ⟨hheader, hext⟩, hrest⟩

theorem wellFormed_regroup {files : List File} (h : ∀ file ∈ files, file.WellFormed) :
    ∀ file ∈ regroup files, file.WellFormed := by
  cases files with
  | nil => exact h
  | cons file rest =>
      rw [List.forall_mem_cons] at h
      exact wellFormed_regroupFrom h.1 h.2

theorem toLines_regroup {files : List File} (h : ∀ file ∈ files, file.WellFormed) :
    (regroup files).flatMap File.toLines = files.flatMap File.toLines := by
  cases files with
  | nil => rfl
  | cons file rest =>
      rw [List.forall_mem_cons] at h
      exact toLines_regroupFrom h.1 h.2

theorem separated_regroup (files : List File) : Separated (regroup files) := by
  cases files with
  | nil => exact .nil
  | cons file rest => exact separated_regroupFrom file rest

theorem length_regroup_lt {files : List File} (h : ¬ Separated files) :
    (regroup files).length < files.length := by
  cases files with
  | nil => exact absurd .nil h
  | cons file rest => exact length_regroupFrom_lt h

theorem length_regroup_le (files : List File) : (regroup files).length ≤ files.length := by
  cases files with
  | nil => rfl
  | cons file rest => exact length_regroupFrom_le file rest

theorem regroup_eq_self_iff {files : List File} : regroup files = files ↔ Separated files := by
  constructor
  · intro h
    rw [← h]
    exact separated_regroup files
  · intro hsep
    cases files with
    | nil => rfl
    | cons file rest => exact regroupFrom_of_separated hsep

/-! ## Reading back -/

/-- What the text of any sections that were read is read as. -/
theorem parse_unlines_eq_regroup {files : List File}
    (h : ∀ file ∈ files, file.WellFormed ∧ ∀ line ∈ file.toLines, '\n' ∉ line.toList) :
    parse (Text.unlines (files.flatMap File.toLines)) = .ok (regroup files) := by
  have hwf : ∀ file ∈ files, file.WellFormed := fun file hfile => (h file hfile).1
  rw [← toLines_regroup hwf]
  apply parse_unlines (wellFormed_regroup hwf) _ (separated_regroup files)
  intro file hfile line hline
  have hmem : line ∈ files.flatMap File.toLines := by
    rw [← toLines_regroup hwf]
    exact List.mem_flatMap.2 ⟨file, hfile, hline⟩
  obtain ⟨original, horiginal, hline⟩ := List.mem_flatMap.1 hmem
  exact (h original horiginal).2 line hline

end Changesets.Diff
