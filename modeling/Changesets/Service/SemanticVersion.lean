import Changesets.Decimal.Word
import Changesets.Text.Search

/-!
Semantic versions, `major.minor.patch` with an optional pre-release after `-` and optional build
metadata after `+`. Numbers fit in 64 bits and have no leading zeros; build identifiers alone may
have them.
-/
namespace Changesets.Service

/-- The numbers of a version, without its pre-release and build metadata. -/
structure Release where
  major : UInt64
  minor : UInt64
  patch : UInt64
  deriving DecidableEq

/-- Whether `a` is at least `b`, by the first number in which they differ. -/
def Release.atLeast (a b : Release) : Bool :=
  b.major < a.major || (b.major = a.major &&
    (b.minor < a.minor || (b.minor = a.minor && b.patch ≤ a.patch)))

namespace SemanticVersion

/-- Whether a numeral has a zero before other digits. -/
def hasLeadingZero : List Char → Bool
  | '0' :: _ :: _ => true
  | _ => false

/-- A number without a sign and without leading zeros. -/
def number? (cs : List Char) : Option UInt64 :=
  if cs.head? = some '+' || hasLeadingZero cs then none else Decimal.word? cs

/-- The pieces of a text between the separators. -/
def splitAll (separator : Char) : List Char → List (List Char)
  | [] => [[]]
  | c :: cs =>
    if c = separator then [] :: splitAll separator cs
    else match splitAll separator cs with
      | [] => [[c]]
      | piece :: rest => (c :: piece) :: rest

def isIdentifier (cs : List Char) : Bool :=
  !cs.isEmpty && cs.all fun c => c.isAlphanum || c = '-'

/-- A pre-release identifier of digits only has no leading zero. -/
def isPrereleaseIdentifier (cs : List Char) : Bool :=
  isIdentifier cs && !(cs.all Char.isDigit && hasLeadingZero cs)

/-- The text before the first occurrence of a character, and the text after it if it occurs. -/
def splitOff (c : Char) (cs : List Char) : List Char × Option (List Char) :=
  match cs.dropWhile (· ≠ c) with
  | _ :: after => (cs.takeWhile (· ≠ c), some after)
  | [] => (cs, none)

/-- The numbers of a text that is a semantic version. -/
def release? (cs : List Char) : Option Release :=
  let (version, build) := splitOff '+' cs
  let (core, prerelease) := splitOff '-' version
  if build.all (fun b => (splitAll '.' b).all isIdentifier) &&
      prerelease.all (fun p => (splitAll '.' p).all isPrereleaseIdentifier) then
    match splitAll '.' core with
    | [major, minor, patch] => do
      return ⟨← number? major, ← number? minor, ← number? patch⟩
    | _ => none
  else none

end Changesets.Service.SemanticVersion
