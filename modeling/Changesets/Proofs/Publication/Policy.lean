import Changesets.Proofs.Publication.Key

/-!
What a policy decides. A rule that is added goes before all others where it applies and changes
nothing elsewhere; a key with a glob for all repositories makes a rule for one branch.
-/
namespace Changesets.Publication

namespace Policy

theorem valueFor_concat (rules : List Rule) (rule : Rule) (repository branch : String) :
    valueFor ⟨rules ++ [rule]⟩ repository branch =
      if rule.appliesTo repository branch then rule.value
      else valueFor ⟨rules⟩ repository branch := by
  simp only [valueFor, List.findRev?_eq_find?_reverse, List.reverse_append, List.reverse_singleton,
    List.singleton_append, List.find?_cons]
  cases rule.appliesTo repository branch <;> rfl

/-- A policy that says something about one branch only, for all repositories. -/
theorem exists_override_branch {branch : String} (h : branch ≠ "") (value : Value) :
    ∃ policy, override {} ("*@" ++ branch) value = .ok policy ∧ ∀ repository name,
      policy.valueFor repository name = if name = branch then value else .absent := by
  have hkey : "*" ++ "@" ++ branch = "*@" ++ branch := congrArg (· ++ branch) (by decide)
  have hparts : KeyParts ("*@" ++ branch) "*" (some branch) := hkey ▸ .suffixed (by decide)
  have hrule : Rule.ofKey ("*@" ++ branch) value = .ok ⟨[.anySequence], some branch, value⟩ := by
    rw [Rule.ofKey_of_keyParts hparts, Glob.parse_asterisk]
    simp [Option.filter, h]
  refine ⟨⟨[] ++ [⟨[.anySequence], some branch, value⟩]⟩, by rw [override, hrule]; rfl, ?_⟩
  intro repository name
  rw [valueFor_concat]
  by_cases hname : name = branch
  · simp [Rule.appliesTo, Glob.matchesText_anySequence, hname]
  · simp [Rule.appliesTo, Glob.matchesText_anySequence, hname, Ne.symm hname, valueFor]

end Policy

end Changesets.Publication
