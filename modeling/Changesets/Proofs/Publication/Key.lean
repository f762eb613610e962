import Changesets.Proofs.Glob
import Changesets.Proofs.Text.Search
import Changesets.Publication.Policy

/-!
Keys of publication rules. A key is a glob, or a glob and a branch with the first `@` of the key
between them; the rule of a key applies where both say so.
-/
namespace Changesets.Publication

/-- What stands before the first `@` of a key, and what stands after it if there is one. -/
inductive KeyParts : (key pattern : String) → (suffix : Option String) → Prop
  | plain {pattern : String} : '@' ∉ pattern.toList → KeyParts pattern pattern none
  | suffixed {pattern suffix : String} : '@' ∉ pattern.toList →
      KeyParts (pattern ++ "@" ++ suffix) pattern (some suffix)

/-- The glob of the key stands for the repository, and its suffix, if any, names the branch or
nothing. -/
def KeyMatches (repository branch key : String) : Prop :=
  ∃ pattern suffix, KeyParts key pattern suffix ∧ Glob.Covers pattern repository ∧
    ∀ name ∈ suffix, name = "" ∨ name = branch

theorem exists_keyParts (key : String) : ∃ pattern suffix, KeyParts key pattern suffix := by
  have hat : "@".toList = ['@'] := by decide
  cases h : Text.splitFirst? "@" key with
  | none =>
      rw [Text.splitFirst?_eq_none, hat, List.singleton_infix_iff] at h
      exact ⟨key, none, .plain h⟩
  | some parts =>
      obtain ⟨pattern, suffix⟩ := parts
      rw [Text.splitFirst?_eq_some, hat] at h
      have hkey : key = pattern ++ "@" ++ suffix := String.toList_injective (by
        simpa using Text.mem_cuts.1 (List.mem_of_mem_head? h))
      exact ⟨pattern, some suffix, hkey ▸ .suffixed (Text.notMem_of_head?_cuts h)⟩

theorem KeyParts.splitKey_eq {key pattern : String} {suffix : Option String}
    (h : KeyParts key pattern suffix) :
    splitKey key = (pattern, suffix.filter (· ≠ "")) := by
  have hat : "@".toList = ['@'] := by decide
  cases h with
  | plain hpattern =>
      have hsplit : Text.splitFirst? "@" key = none := by
        rwa [Text.splitFirst?_eq_none, hat, List.singleton_infix_iff]
      rw [splitKey, hsplit]
      rfl
  | @suffixed _ suffix hpattern =>
      have hsplit : Text.splitFirst? "@" (pattern ++ "@" ++ suffix) = some (pattern, suffix) := by
        rw [Text.splitFirst?_eq_some, String.toList_append, String.toList_append]
        exact Text.head?_cuts_of_notMem hpattern suffix.toList
      rw [splitKey, hsplit]
      by_cases hempty : suffix = "" <;> simp [hempty, Option.filter]

/-- The rule that a key and a value state. -/
inductive Rule.States (key : String) (value : Value) : Rule → Prop
  | mk {pattern : String} {suffix : Option String} {tokens : List Glob.Token} :
      KeyParts key pattern suffix → Glob.Spells none pattern.toList tokens →
        States key value ⟨tokens, suffix.filter (· ≠ ""), value⟩

namespace Rule

variable {key : String} {value : Value} {rule : Rule}

theorem ofKey_of_keyParts {pattern : String} {suffix : Option String}
    (h : KeyParts key pattern suffix) :
    ofKey key value = match Glob.parse pattern with
      | .ok tokens => .ok ⟨tokens, suffix.filter (· ≠ ""), value⟩
      | .error reason => .error (.invalidPattern key reason) := by
  cases hparse : Glob.parse pattern <;> simp only [ofKey, h.splitKey_eq, hparse]

theorem ofKey_eq_ok_iff : ofKey key value = .ok rule ↔ States key value rule := by
  constructor
  · intro h
    obtain ⟨pattern, suffix, hparts⟩ := exists_keyParts key
    rw [ofKey_of_keyParts hparts] at h
    split at h
    · next tokens htokens =>
        cases h
        exact .mk hparts (Glob.parse_eq_ok_iff.1 htokens)
    · cases h
  · rintro ⟨hparts, htokens⟩
    rw [ofKey_of_keyParts hparts, Glob.parse_eq_ok_iff.2 htokens]

theorem ofKey_eq_error_iff {e : Error} :
    ofKey key value = .error e ↔ ∃ pattern suffix reason, KeyParts key pattern suffix ∧
      Glob.parse pattern = .error reason ∧ e = .invalidPattern key reason := by
  constructor
  · intro h
    obtain ⟨pattern, suffix, hparts⟩ := exists_keyParts key
    rw [ofKey_of_keyParts hparts] at h
    split at h
    · cases h
    · next reason hreason =>
        cases h
        exact ⟨pattern, suffix, reason, hparts, hreason, rfl⟩
  · rintro ⟨pattern, suffix, reason, hparts, hreason, rfl⟩
    rw [ofKey_of_keyParts hparts, hreason]

theorem States.value_eq (h : States key value rule) : rule.value = value := by
  cases h
  rfl

theorem States.appliesTo_iff (h : States key value rule) {repository branch : String} :
    rule.appliesTo repository branch ↔ KeyMatches repository branch key := by
  obtain @⟨pattern, suffix, tokens, hparts, htokens⟩ := h
  have hbranch {suffix : Option String} :
      (suffix.filter (· ≠ "")).all (· == branch) ↔ ∀ name ∈ suffix, name = "" ∨ name = branch := by
    cases suffix with
    | none => simp
    | some name => by_cases hname : name = "" <;> simp [hname]
  rw [appliesTo, Bool.and_eq_true, Glob.matchesText_iff, hbranch]
  constructor
  · rintro ⟨hmatches, hname⟩
    exact ⟨pattern, suffix, hparts, ⟨tokens, htokens, hmatches⟩, hname⟩
  · rintro ⟨pattern', suffix', hparts', ⟨tokens', htokens', hmatches⟩, hname⟩
    -- a key has one pattern, and a pattern one list of pieces
    have hsplit := hparts.splitKey_eq.symm.trans hparts'.splitKey_eq
    obtain ⟨rfl, hsuffix⟩ := Prod.mk.inj hsplit
    have heq := (Glob.parse_eq_ok_iff.2 htokens).symm.trans (Glob.parse_eq_ok_iff.2 htokens')
    obtain rfl := Except.ok.inj heq
    exact ⟨hmatches, hbranch.1 (hsuffix ▸ hbranch.2 hname)⟩

end Rule

end Changesets.Publication
