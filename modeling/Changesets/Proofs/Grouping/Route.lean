import Changesets.Grouping.Group
import Changesets.Proofs.Text.Search

/-!
Which branch a path is sent to, said of the order of the groups and not of a search through them.
-/
namespace Changesets.Group

/-- The directory of the group stands somewhere in the path. -/
def Covers (path : String) (group : Group) : Prop :=
  group.directory.toList <:+: path.toList

/-- The group is the last one that covers the path. -/
def Decides (groups : List Group) (path : String) (group : Group) : Prop :=
  group.Covers path ∧ ∃ before after, groups = before ++ group :: after ∧
    ∀ later ∈ after, ¬ later.Covers path

/-- The last group that covers the path decides: its branch, or the default one if its directory is
empty. A path that no group covers has the default branch. -/
inductive RoutesTo (groups : List Group) (default path : String) : String → Prop
  | uncovered : (∀ group ∈ groups, ¬ group.Covers path) → RoutesTo groups default path default
  | masked {before after : List Group} {group : Group} :
      groups = before ++ group :: after → group.Covers path →
        (∀ later ∈ after, ¬ later.Covers path) → group.directory = "" →
          RoutesTo groups default path default
  | grouped {before after : List Group} {group : Group} :
      groups = before ++ group :: after → group.Covers path →
        (∀ later ∈ after, ¬ later.Covers path) → group.directory ≠ "" →
          RoutesTo groups default path group.branch

theorem contains_iff_covers {group : Group} {path : String} :
    Text.contains group.directory path ↔ group.Covers path :=
  Text.contains_iff

theorem findRev?_covers {groups : List Group} {path : String} {group : Group} :
    (groups.findRev? fun g => Text.contains g.directory path) = some group ↔
      Decides groups path group := by
  rw [List.findRev?_eq_find?_reverse, List.find?_eq_some_iff_append, contains_iff_covers, Decides]
  refine and_congr_right fun _ => ?_
  constructor
  · intro hspec
    obtain ⟨later, earlier, hrev, hlater⟩ := hspec
    refine ⟨earlier.reverse, later.reverse, ?_, fun g hg => ?_⟩
    · simpa using congrArg List.reverse hrev
    · simpa [← contains_iff_covers] using hlater g (List.mem_reverse.1 hg)
  · intro hspec
    obtain ⟨before, after, rfl, hafter⟩ := hspec
    refine ⟨after.reverse, before.reverse, by simp, fun g hg => ?_⟩
    simpa [← contains_iff_covers] using hafter g (List.mem_reverse.1 hg)

instance (groups : List Group) (path : String) (group : Group) :
    Decidable (Decides groups path group) :=
  decidable_of_iff _ findRev?_covers

theorem findRev?_covers_eq_none {groups : List Group} {path : String} :
    (groups.findRev? fun g => Text.contains g.directory path) = none ↔
      ∀ group ∈ groups, ¬ group.Covers path := by
  rw [List.findRev?_eq_find?_reverse, List.find?_eq_none]
  simp only [List.mem_reverse, contains_iff_covers]

theorem routesTo_route (groups : List Group) (default path : String) :
    RoutesTo groups default path (route groups default path) := by
  rw [route]
  cases hfind : groups.findRev? fun g => Text.contains g.directory path with
  | none => exact .uncovered (findRev?_covers_eq_none.1 hfind)
  | some group =>
      obtain ⟨hcovers, before, after, hgroups, hafter⟩ := findRev?_covers.1 hfind
      by_cases hdir : group.directory = ""
      · simpa [hdir] using RoutesTo.masked hgroups hcovers hafter hdir
      · simpa [hdir] using RoutesTo.grouped hgroups hcovers hafter hdir

/-- The groups leave no choice of a branch. -/
theorem route_eq_iff {groups : List Group} {default path branch : String} :
    route groups default path = branch ↔ RoutesTo groups default path branch := by
  constructor
  · intro heq
    subst heq
    exact routesTo_route groups default path
  · intro h
    cases h with
    | uncovered hnone =>
        rw [route, findRev?_covers_eq_none.2 hnone]
    | masked hgroups hcovers hafter hdir =>
        rw [route, findRev?_covers.2 ⟨hcovers, _, _, hgroups, hafter⟩]
        simp [hdir]
    | grouped hgroups hcovers hafter hdir =>
        rw [route, findRev?_covers.2 ⟨hcovers, _, _, hgroups, hafter⟩]
        simp [hdir]

theorem route_of_decides {groups : List Group} {default path : String} {group : Group}
    (h : Decides groups path group) (hdir : group.directory ≠ "") :
    route groups default path = group.branch := by
  obtain ⟨hcovers, before, after, hgroups, hafter⟩ := h
  exact route_eq_iff.2 (.grouped hgroups hcovers hafter hdir)

/-- No group has a branch for the path: none covers it, or the last that does has an empty
directory. -/
def StaysOnDefault (groups : List Group) (path : String) : Prop :=
  (∀ group ∈ groups, ¬ group.Covers path) ∨
    ∃ group, Decides groups path group ∧ group.directory = ""

theorem route_of_staysOnDefault {groups : List Group} {path : String}
    (h : StaysOnDefault groups path) (default : String) : route groups default path = default := by
  rcases h with hnone | ⟨group, ⟨hcovers, before, after, hgroups, hafter⟩, hdir⟩
  · exact route_eq_iff.2 (.uncovered hnone)
  · exact route_eq_iff.2 (.masked hgroups hcovers hafter hdir)

/-! ## Paths within longer ones -/

theorem Covers.of_isInfix {path longer : String} (hwithin : path.toList <:+: longer.toList)
    {group : Group} (h : group.Covers path) : group.Covers longer :=
  List.IsInfix.trans h hwithin

theorem Decides.unique {groups : List Group} {path : String} {group other : Group}
    (h : Decides groups path group) (hother : Decides groups path other) : other = group :=
  Option.some.inj ((findRev?_covers.2 hother).symm.trans (findRev?_covers.2 h))

theorem Decides.mem {groups : List Group} {path : String} {group : Group}
    (h : Decides groups path group) : group ∈ groups := by
  obtain ⟨-, before, after, rfl, -⟩ := h
  exact List.mem_append_cons_self

theorem exists_decides_or_uncovered (groups : List Group) (path : String) :
    (∃ group, Decides groups path group) ∨ ∀ group ∈ groups, ¬ group.Covers path := by
  cases hfind : groups.findRev? fun g => Text.contains g.directory path with
  | some group => exact .inl ⟨group, findRev?_covers.1 hfind⟩
  | none => exact .inr (findRev?_covers_eq_none.1 hfind)

/-- The group that decides a longer path decides the path within it too if it covers that, since
later groups cover neither. -/
theorem Decides.of_isInfix {groups : List Group} {path longer : String}
    (hwithin : path.toList <:+: longer.toList) {group : Group} (h : Decides groups longer group)
    (hcovers : group.Covers path) : Decides groups path group := by
  obtain ⟨-, before, after, hgroups, hafter⟩ := h
  exact ⟨hcovers, before, after, hgroups,
    fun later hlater hpath => hafter later hlater (hpath.of_isInfix hwithin)⟩

/-- A path within a longer one has the same branch exactly if the group that decides the longer one
covers it as well, or has its branch anyway. -/
theorem route_eq_route_iff {groups : List Group} {path longer : String}
    (hwithin : path.toList <:+: longer.toList) (default : String) :
    route groups default longer = route groups default path ↔
      ∀ group, Decides groups longer group →
        group.Covers path ∨ group.branch = route groups default path := by
  rcases exists_decides_or_uncovered groups longer with ⟨group, hdecides⟩ | hnone
  · -- no other group decides, so the condition is about this one
    have hall : (∀ other, Decides groups longer other →
          other.Covers path ∨ other.branch = route groups default path) ↔
        group.Covers path ∨ group.branch = route groups default path := by
      constructor
      · exact fun hspec => hspec group hdecides
      · intro hspec other hother
        rwa [hdecides.unique hother]
    rw [hall]
    by_cases hcovers : group.Covers path
    · have hsame : route groups default longer = route groups default path := by
        rw [route, route, findRev?_covers.2 hdecides,
          findRev?_covers.2 (hdecides.of_isInfix hwithin hcovers)]
      simp [hsame, hcovers]
    · have hdir : group.directory ≠ "" := by
        intro hempty
        exact hcovers (by simp [Covers, hempty])
      simp [route_of_decides hdecides hdir, hcovers]
  · have hpath : ∀ group ∈ groups, ¬ group.Covers path :=
      fun group hgroup hcovers => hnone group hgroup (hcovers.of_isInfix hwithin)
    have hsame : route groups default longer = route groups default path := by
      rw [route_eq_iff.2 (.uncovered hnone), route_eq_iff.2 (.uncovered hpath)]
    have hdecides : ∀ group, ¬ Decides groups longer group :=
      fun group hgroup => hnone group hgroup.mem hgroup.1
    simp [hsame, hdecides]

end Changesets.Group
