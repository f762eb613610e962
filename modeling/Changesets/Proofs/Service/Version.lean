import Changesets.Proofs.Service.CalendarDate
import Changesets.Proofs.Service.SemanticVersion
import Changesets.Proofs.Text.Search
import Changesets.Service.Features

/-!
What a service can do, by the name of its version. There are three kinds of name, no text is of two
of them, and a later version of the same kind can do all that an earlier one can.
-/
namespace Changesets.Service

namespace Features

/-- Each of the two is there from a point on. -/
def Since {α : Type} [LE α] (author published now : α) (features : Features) : Prop :=
  (features.includeAutoAuthorDetails ↔ author ≤ now) ∧
    (features.allowOptionalPublished ↔ published ≤ now)

/-- The first can do nothing that the second cannot. -/
def Within (a b : Features) : Prop :=
  (a.includeAutoAuthorDetails → b.includeAutoAuthorDetails) ∧
    (a.allowOptionalPublished → b.allowOptionalPublished)

section

variable {α : Type} [Preorder α] {author published now later : α} {a b : Features}

theorem Since.unique (ha : a.Since author published now) (hb : b.Since author published now) :
    a = b := by
  have hauthor := Bool.eq_iff_iff.2 (ha.1.trans hb.1.symm)
  have hpublished := Bool.eq_iff_iff.2 (ha.2.trans hb.2.symm)
  cases a
  cases b
  simp_all

theorem Since.author_of_published (h : a.Since author published now) (hle : author ≤ published) :
    a.allowOptionalPublished → a.includeAutoAuthorDetails :=
  fun hpublished => h.1.2 (hle.trans (h.2.1 hpublished))

theorem Since.within (hle : now ≤ later) (ha : a.Since author published now)
    (hb : b.Since author published later) : a.Within b :=
  ⟨fun h => hb.1.2 ((ha.1.1 h).trans hle), fun h => hb.2.2 ((ha.2.1 h).trans hle)⟩

end

end Features

namespace Version

/-- The names of versions. -/
inductive Named : List Char → Version → Prop
  | dev : Named ['d', 'e', 'v'] .dev
  | release {cs : List Char} {numbers : Release} (h : SemanticVersion.Spells cs numbers) :
      Named cs (.release numbers)
  | marked {cs : List Char} {numbers : Release} (h : SemanticVersion.Spells cs numbers) :
      Named ('v' :: cs) (.release numbers)
  | insider {build date commit : List Char} {builtOn : CalendarDate}
      (hbuild : build ≠ [] ∧ ∀ c ∈ build, c.isDigit) (hdate : CalendarDate.Spells date builtOn)
      (hcommit : commit ≠ [] ∧ '_' ∉ commit) :
      Named (build ++ '_' :: date ++ '_' :: commit) (.insider builtOn)

/-- The text is a name of the version, apart from white space around it. -/
def NamedBy (version : Version) (text : String) : Prop :=
  ∃ name, Text.Trims text name ∧ Named name.toList version

/-- The features of a version: all for `dev`, and otherwise those that its release or the day it was
built on has reached. -/
def Grants : Version → Features → Prop
  | .dev, features => features = ⟨true, true⟩
  | .release numbers, features =>
    features.Since (toLex (3, toLex (20, 0))) (toLex (3, toLex (30, 0))) numbers.triple
  | .insider builtOn, features =>
    features.Since (toLex (2020, toLex (9, 10))) (toLex (2021, toLex (6, 21))) builtOn.triple

/-- The two are releases or insider builds, and the second is not the earlier one. -/
def NotAfter : Version → Version → Prop
  | .release a, .release b => a.triple ≤ b.triple
  | .insider a, .insider b => a.triple ≤ b.triple
  | _, _ => False

/-! ## Names -/

theorem insiderTest_iff {build commit : List Char} :
    !build.isEmpty && build.all Char.isDigit && !commit.isEmpty ↔
      (build ≠ [] ∧ ∀ c ∈ build, c.isDigit) ∧ commit ≠ [] := by
  simp

theorem insiderDate?_eq_some_iff {cs : List Char} {builtOn : CalendarDate} :
    insiderDate? cs = some builtOn ↔ Named cs (.insider builtOn) := by
  constructor
  · intro h
    unfold insiderDate? at h
    split at h
    · next build date commit hpieces =>
        obtain ⟨-, hmem, rfl⟩ := SemanticVersion.splitAll_eq_iff.1 hpieces
        have hcs : ['_'].intercalate [build, date, commit] =
            build ++ '_' :: date ++ '_' :: commit := by simp
        rw [Option.ite_none_right_eq_some, insiderTest_iff, CalendarDate.parse?_eq_some_iff] at h
        rw [hcs]
        exact .insider h.1.1 h.2 ⟨h.1.2, hmem commit (by simp)⟩
    · cases h
  · intro h
    cases h with
    | @insider build date commit _ hbuild hdate hcommit =>
        have hbuildMark : '_' ∉ build := fun hmem => absurd (hbuild.2 '_' hmem) (by decide)
        have hdateMark : '_' ∉ date :=
          hdate.notMem (by decide) (by decide) (by decide) (by decide)
        have hpieces : SemanticVersion.splitAll '_' (build ++ '_' :: date ++ '_' :: commit) =
            [build, date, commit] := by
          refine SemanticVersion.splitAll_eq_iff.2 ⟨List.cons_ne_nil _ _, ?_, by simp⟩
          simp [hbuildMark, hdateMark, hcommit.2]
        rw [insiderDate?, hpieces]
        rw [Option.ite_none_right_eq_some, insiderTest_iff, CalendarDate.parse?_eq_some_iff]
        exact ⟨⟨hbuild, hcommit.1⟩, hdate⟩

theorem named_dev_iff {cs : List Char} : Named cs .dev ↔ cs = "dev".toList := by
  constructor
  · intro h
    cases h
    rfl
  · intro h
    subst h
    exact .dev

theorem named_release_iff {cs : List Char} {numbers : Release} :
    Named cs (.release numbers) ↔ SemanticVersion.Spells cs numbers ∨
      ∃ rest, cs = 'v' :: rest ∧ SemanticVersion.Spells rest numbers := by
  constructor
  · intro h
    cases h with
    | release h => exact .inl h
    | marked h => exact .inr ⟨_, rfl, h⟩
  · rintro (h | ⟨rest, rfl, h⟩)
    · exact .release h
    · exact .marked h

/-- A version begins with a digit, so that it is clear whether a `v` is in front of it. -/
theorem release?_withoutStart_eq_some_iff {name : String} {numbers : Release} :
    SemanticVersion.release? (Text.withoutStart "v" name).toList = some numbers ↔
      Named name.toList (.release numbers) := by
  rw [SemanticVersion.release?_eq_some_iff, named_release_iff]
  constructor
  · intro h
    generalize hstart : Text.withoutStart "v" name = rest at h
    rcases Text.withoutStart_eq_iff.1 hstart with rfl | ⟨rfl, -⟩
    · exact .inr ⟨rest.toList, by simp, h⟩
    · exact .inl h
  · rintro (h | ⟨rest, hrest, h⟩)
    · have hstart : Text.startsWith "v" name = false := by
        rw [Bool.eq_false_iff, Ne, Text.startsWith_iff_head? rfl]
        obtain ⟨c, rest, hcs, hdigit⟩ := h.exists_digit
        rw [hcs, List.head?_cons, Option.some.injEq]
        rintro rfl
        exact absurd hdigit (by decide)
      rwa [Text.withoutStart_eq_self hstart]
    · obtain rfl : name = "v" ++ String.ofList rest := String.toList_injective (by simp [hrest])
      rwa [Text.withoutStart_append, String.toList_ofList]

/-! ## The kinds of name exclude each other -/

/-- Underscores tell insider builds from all other versions. -/
theorem Named.mem_iff {cs : List Char} {version : Version} (h : Named cs version) :
    '_' ∈ cs ↔ ∃ builtOn, version = .insider builtOn := by
  cases h with
  | dev => simp
  | release h => simp [h.notMem (c := '_') (by decide) (by decide) (by decide) (by decide)]
  | marked h => simp [h.notMem (c := '_') (by decide) (by decide) (by decide) (by decide)]
  | insider => simp

theorem not_named_release_dev {numbers : Release} : ¬ Named ['d', 'e', 'v'] (.release numbers) := by
  rw [named_release_iff]
  rintro (h | ⟨rest, hrest, -⟩)
  · obtain ⟨c, rest, hcs, hdigit⟩ := h.exists_digit
    obtain rfl := (List.cons.inj hcs).1
    exact absurd hdigit (by decide)
  · exact absurd (List.cons.inj hrest).1 (by decide)

theorem Named.unique {cs : List Char} {a b : Version} (ha : Named cs a) (hb : Named cs b) :
    a = b := by
  have hmark := ha.mem_iff.symm.trans hb.mem_iff
  cases a with
  | dev =>
      cases ha
      cases b with
      | dev => rfl
      | release => exact absurd hb not_named_release_dev
      | insider => simp at hmark
  | release numbers =>
      cases b with
      | dev =>
          cases hb
          exact absurd ha not_named_release_dev
      | release numbers' =>
          rw [← String.toList_ofList (l := cs), ← release?_withoutStart_eq_some_iff] at ha hb
          rw [Option.some.inj (ha.symm.trans hb)]
      | insider => simp at hmark
  | insider builtOn =>
      cases b with
      | dev | release => simp at hmark
      | insider builtOn' =>
          rw [← insiderDate?_eq_some_iff] at ha hb
          rw [Option.some.inj (ha.symm.trans hb)]

theorem parse?_eq_some_iff {text : String} {version : Version} :
    parse? text = some version ↔ version.NamedBy text := by
  have hnamed : version.NamedBy text ↔ Named (Text.trim text).toList version := by
    constructor
    · rintro ⟨name, htrims, hname⟩
      rwa [Text.trim_eq_iff.2 htrims]
    · exact fun h => ⟨_, Text.trims_trim text, h⟩
  rw [hnamed, parse?]
  generalize Text.trim text = name
  split
  · next hdev =>
      subst hdev
      exact ⟨fun h => Option.some.inj h ▸ .dev, fun h => congrArg some (Named.dev.unique h)⟩
  · next hdev =>
      split
      · next numbers hnumbers =>
          have hrelease := release?_withoutStart_eq_some_iff.1 hnumbers
          exact ⟨fun h => Option.some.inj h ▸ hrelease,
            fun h => congrArg some (hrelease.unique h)⟩
      · next hnone =>
          -- the two other kinds have been ruled out
          rw [Option.map_eq_some_iff]
          cases version with
          | dev =>
              refine ⟨fun h => by simp at h, fun h => ?_⟩
              exact absurd (String.toList_injective (named_dev_iff.1 h)) hdev
          | release numbers =>
              refine ⟨fun h => by simp at h, fun h => ?_⟩
              rw [← release?_withoutStart_eq_some_iff, hnone] at h
              cases h
          | insider builtOn => simp [insiderDate?_eq_some_iff]

theorem NamedBy.unique {text : String} {a b : Version} (ha : a.NamedBy text)
    (hb : b.NamedBy text) : a = b :=
  Option.some.inj ((parse?_eq_some_iff.2 ha).symm.trans (parse?_eq_some_iff.2 hb))

/-! ## Features -/

theorem grants_features (version : Version) : version.Grants version.features := by
  cases version with
  | dev => rfl
  | release numbers => exact ⟨Release.atLeast_iff, Release.atLeast_iff⟩
  | insider builtOn => exact ⟨CalendarDate.notBefore_iff, CalendarDate.notBefore_iff⟩

theorem Grants.unique {version : Version} {a b : Features} (ha : version.Grants a)
    (hb : version.Grants b) : a = b := by
  cases version with
  | dev => exact ha.trans hb.symm
  | release numbers | insider builtOn => exact Features.Since.unique ha hb

theorem Grants.author_of_published {version : Version} {features : Features}
    (h : version.Grants features) :
    features.allowOptionalPublished → features.includeAutoAuthorDetails := by
  cases version with
  | dev =>
      subst h
      exact fun _ => rfl
  | release numbers | insider builtOn => exact Features.Since.author_of_published h (by decide)

theorem Grants.within {a b : Version} {features later : Features} (hle : a.NotAfter b)
    (ha : a.Grants features) (hb : b.Grants later) : features.Within later := by
  cases a with
  | dev => cases hle
  | release numbers =>
      cases b with
      | dev | insider => cases hle
      | release numbers' => exact Features.Since.within hle ha hb
  | insider builtOn =>
      cases b with
      | dev | release => cases hle
      | insider builtOn' => exact Features.Since.within hle ha hb

end Version

namespace Features

theorem ofVersion_eq_ok_iff {text : String} {features : Features} :
    ofVersion text = .ok features ↔
      ∃ version : Version, version.NamedBy text ∧ version.Grants features := by
  constructor
  · intro h
    unfold ofVersion at h
    split at h
    · next version hversion =>
        cases h
        exact ⟨version, Version.parse?_eq_some_iff.1 hversion, version.grants_features⟩
    · cases h
  · rintro ⟨version, hnamed, hgrants⟩
    rw [ofVersion, Version.parse?_eq_some_iff.2 hnamed, hgrants.unique version.grants_features]

theorem exists_ofVersion_eq_ok_iff {text : String} :
    (∃ features, ofVersion text = .ok features) ↔ ∃ version : Version, version.NamedBy text := by
  simp only [ofVersion_eq_ok_iff]
  constructor
  · rintro ⟨features, version, hnamed, -⟩
    exact ⟨version, hnamed⟩
  · rintro ⟨version, hnamed⟩
    exact ⟨version.features, version, hnamed, version.grants_features⟩

theorem ofVersion_eq_error_iff {text : String} {e : UnparsableVersion} :
    ofVersion text = .error e ↔
      (¬ ∃ version : Version, version.NamedBy text) ∧ e = ⟨text⟩ := by
  simp only [← Version.parse?_eq_some_iff, ofVersion]
  cases Version.parse? text with
  | none => simp [eq_comm]
  | some version => simp

/-- A text is rejected if it is no name of a version. The names of the three kinds of version are
different texts, a version lets a service do what its numbers or its date say, and a later release or
insider build can do all that an earlier one can. -/
theorem ofVersion_spec :
    (∀ text, (∃ features, ofVersion text = .ok features) ↔
        ∃ version : Version, version.NamedBy text) ∧
      (∀ text features, ofVersion text = .ok features ↔
        ∃ version : Version, version.NamedBy text ∧ version.Grants features) ∧
      (∀ text e, ofVersion text = .error e ↔
        (¬ ∃ version : Version, version.NamedBy text) ∧ e = ⟨text⟩) ∧
      (∀ text (a b : Version), a.NamedBy text → b.NamedBy text → a = b) ∧
      (∀ text features, ofVersion text = .ok features →
        features.allowOptionalPublished → features.includeAutoAuthorDetails) ∧
      ∀ text text' (a b : Version) features later, a.NamedBy text → b.NamedBy text' →
        a.NotAfter b → ofVersion text = .ok features → ofVersion text' = .ok later →
        features.Within later := by
  refine ⟨fun _ => exists_ofVersion_eq_ok_iff, fun _ _ => ofVersion_eq_ok_iff,
    fun _ _ => ofVersion_eq_error_iff, fun _ _ _ => Version.NamedBy.unique, ?_, ?_⟩
  · intro text features h
    obtain ⟨version, -, hgrants⟩ := ofVersion_eq_ok_iff.1 h
    exact hgrants.author_of_published
  · intro text text' a b features later ha hb hle hfeatures hlater
    obtain ⟨a', ha', hgrants⟩ := ofVersion_eq_ok_iff.1 hfeatures
    obtain ⟨b', hb', hgrants'⟩ := ofVersion_eq_ok_iff.1 hlater
    obtain rfl := ha.unique ha'
    obtain rfl := hb.unique hb'
    exact hgrants.within hle hgrants'

example : ofVersion " 105117_2021-07-01_a1b2c3d" = .ok ⟨true, true⟩ := by decide

end Features

end Changesets.Service
