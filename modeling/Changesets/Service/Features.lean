import Changesets.Service.CalendarDate
import Changesets.Service.SemanticVersion
import Changesets.Text.Blank

/-!
What a service can do, told from its version: `dev`, a release, or an insider build, which is named
by a number, the date it was built on and a commit.
-/
namespace Changesets.Service

structure Features where
  /-- A changeset need not say whether it is published. -/
  allowOptionalPublished : Bool := false
  /-- A commit without an author gets the default one. -/
  includeAutoAuthorDetails : Bool := false
  deriving DecidableEq

/-- The three kinds of version. -/
inductive Version
  | dev
  | release (numbers : Release)
  | insider (builtOn : CalendarDate)
  deriving DecidableEq

/-- The date of an insider build. -/
def insiderDate? (cs : List Char) : Option CalendarDate :=
  match SemanticVersion.splitAll '_' cs with
  | [build, date, commit] =>
    if !build.isEmpty && build.all Char.isDigit && !commit.isEmpty then CalendarDate.parse? date
    else none
  | _ => none

/-- The version that a text names, without white space around it. A release may have a `v` in
front. -/
def Version.parse? (text : String) : Option Version :=
  let trimmed := Text.trim text
  if trimmed = "dev" then some .dev
  else match SemanticVersion.release? (Text.withoutStart "v" trimmed).toList with
    | some numbers => some (.release numbers)
    | none => (insiderDate? trimmed.toList).map .insider

def Version.features : Version → Features
  | dev => ⟨true, true⟩
  | release numbers =>
    { allowOptionalPublished := numbers.atLeast ⟨3, 30, 0⟩
      includeAutoAuthorDetails := numbers.atLeast ⟨3, 20, 0⟩ }
  | insider builtOn =>
    { allowOptionalPublished := builtOn.notBefore ⟨2021, 6, 21⟩
      includeAutoAuthorDetails := builtOn.notBefore ⟨2020, 9, 10⟩ }

/-- A text that names no version. -/
structure UnparsableVersion where
  text : String
  deriving DecidableEq

def UnparsableVersion.message (e : UnparsableVersion) : String :=
  s!"unparsable service version '{e.text}'"

/-- The features of the version that a text names. -/
def Features.ofVersion (text : String) : Except UnparsableVersion Features :=
  match Version.parse? text with
  | some version => .ok version.features
  | none => .error ⟨text⟩

end Changesets.Service
