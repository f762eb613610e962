import Changesets.Proofs.Json.Ordered
import Changesets.Proofs.Json.Stated
import Changesets.Proofs.Publication.Meaning

/-!
Policies that are made from keys with a value each: one rule added after the other, or a list in JSON
that is read. Both give the same policy, and both fail at the first key without a glob.
-/
namespace Changesets.Publication

/-- The text is a glob, or a glob and a branch. -/
def IsKey (key : String) : Prop :=
  ∃ pattern suffix, KeyParts key pattern suffix ∧ Glob.IsPattern pattern

theorem Rule.exists_ofKey_eq_ok_iff {key : String} {value : Value} :
    (∃ rule, ofKey key value = .ok rule) ↔ IsKey key := by
  simp only [ofKey_eq_ok_iff]
  constructor
  · rintro ⟨_, hparts, htokens⟩
    exact ⟨_, _, hparts, _, htokens⟩
  · rintro ⟨pattern, suffix, hparts, tokens, htokens⟩
    exact ⟨_, .mk hparts htokens⟩

/-- Every value but the absent one can be stated. -/
theorem Value.exists_statement {value : Value} (h : value ≠ .absent) :
    ∃ statement : Statement, statement.toJson = value.toJson := by
  cases value with
  | absent => exact absurd rfl h
  | explicit published => exact ⟨.bool published, rfl⟩
  | draft => exact ⟨.text "draft", rfl⟩

theorem Value.eq_of_reorders {value : Value} {j : Json} (h : Json.Reorders value.toJson j) :
    value.toJson = j := by
  cases value with
  | absent | explicit | draft =>
      cases h
      rfl

theorem eq_of_reorders_ruleJson {entry : String × Value} {j : Json}
    (h : Json.Reorders (ruleJson entry) j) : ruleJson entry = j := by
  cases h with
  | refl => rfl
  | @object _ ys _ hkeys hvalues hperm =>
      -- an object with one member has no other order
      obtain ⟨y, rfl⟩ := List.length_eq_one_iff.1 (by simpa using congrArg List.length hkeys.symm)
      obtain rfl := List.singleton_perm.1 hperm
      have hkey : entry.1 = y.1 := List.head_eq_of_cons_eq hkeys
      have hvalue := Value.eq_of_reorders (List.forall₂_cons.1 hvalues).1
      rw [ruleJson, hkey, hvalue]

namespace Policy

variable {given : List (String × Value)}

theorem exists_overrides_eq_ok_iff :
    (∃ policy, overrides {} given = .ok policy) ↔ ∀ entry ∈ given, IsKey entry.1 := by
  rw [overrides_eq]
  constructor
  · rintro ⟨policy, hpolicy⟩ entry hentry
    obtain ⟨rules, hrules, -⟩ := map_eq_ok.1 hpolicy
    obtain ⟨rule, -, hrule⟩ := exists_mem_of_forall₂ (mapM_eq_ok_iff.1 hrules) hentry
    exact Rule.exists_ofKey_eq_ok_iff.1 ⟨rule, hrule⟩
  · intro h
    cases hrules : given.mapM fun entry => Rule.ofKey entry.1 entry.2 with
    | ok rules => exact ⟨⟨rules⟩, rfl⟩
    | error e =>
        obtain ⟨before, entry, after, rfl, -, hentry⟩ := mapM_eq_error_iff.1 hrules
        obtain ⟨rule, hrule⟩ := Rule.exists_ofKey_eq_ok_iff.2 (h entry (by simp))
        rw [hrule] at hentry
        cases hentry

/-- The rules that are added before the first key without a glob make a policy, and the rule of that
key is what fails. -/
theorem overrides_eq_error_iff {e : Error} :
    overrides {} given = .error e ↔ ∃ before key value after policy,
      given = before ++ (key, value) :: after ∧ overrides {} before = .ok policy ∧
        policy.override key value = .error e := by
  simp only [overrides, foldlM_eq_error_iff, Prod.exists]

theorem exists_entries (h : ∀ entry ∈ given, entry.2 ≠ .absent) :
    ∃ entries : List (List (String × Statement)), entries.map entryJson = given.map ruleJson ∧
      entries.mapM Rule.ofEntry = given.mapM fun entry => Rule.ofKey entry.1 entry.2 := by
  induction given with
  | nil => exact ⟨[], rfl, rfl⟩
  | cons first given ih =>
      obtain ⟨key, value⟩ := first
      obtain ⟨hfirst, hrest⟩ := List.forall_mem_cons.1 h
      obtain ⟨entries, hjson, hrules⟩ := ih hrest
      obtain ⟨statement, hstatement⟩ := Value.exists_statement hfirst
      have hentry : entryJson [(key, statement)] = ruleJson (key, value) :=
        congrArg (fun j => Json.object [(key, j)]) hstatement
      have hrule : Rule.ofEntry [(key, statement)] = Rule.ofKey key value := by
        rw [Rule.ofEntry, Statement.value_eq_ok_iff.2 hstatement]
        rfl
      refine ⟨[(key, statement)] :: entries, ?_, ?_⟩
      · rw [List.map_cons, List.map_cons, hentry, hjson]
      · rw [List.mapM_cons, List.mapM_cons, hrule, hrules]

/-- A list of keys with a value each is read as the policy with one more rule for each. -/
theorem decode_of_reorders (h : ∀ entry ∈ given, entry.2 ≠ .absent) {j : Json}
    (hj : Json.Reorders (.array (given.map ruleJson)) j) :
    decode j = (overrides {} given).mapError .publication := by
  have heq : .array (given.map ruleJson) = j := by
    cases hj with
    | refl => rfl
    | array hitems =>
        refine congrArg Json.array (Json.eq_of_forall₂ hitems fun item hitem other _ => ?_)
        obtain ⟨entry, -, rfl⟩ := List.mem_map.1 hitem
        exact eq_of_reorders_ruleJson
  obtain ⟨entries, hentries, hrules⟩ := exists_entries h
  rw [← heq, ← hentries, decode_list, ofEntries_eq, hrules, overrides_eq]

theorem recovers_rules (h : ∀ entry ∈ given, entry.2 ≠ .absent) {policy : Policy}
    (hpolicy : overrides {} given = .ok policy) :
    decode.Recovers (.array (given.map ruleJson)) policy := by
  intro j hj
  rw [decode_of_reorders h hj, hpolicy]
  rfl

theorem refuses_rules (h : ∀ entry ∈ given, entry.2 ≠ .absent) {e : Error}
    (he : overrides {} given = .error e) :
    decode.Refuses (.array (given.map ruleJson)) (.publication e) := by
  intro j hj
  rw [decode_of_reorders h hj, he]
  rfl

end Policy

end Changesets.Publication
