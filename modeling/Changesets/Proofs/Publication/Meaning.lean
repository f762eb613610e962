import Changesets.Proofs.Publication.Acceptance

/-!
What a policy decides for a repository and a branch: the value of the last of its keys that matches
them. One more key decides where it matches and changes nothing elsewhere.
-/
namespace Changesets.Publication

/-- The value that keys decide with the values given to them, `default` where none matches. -/
inductive Decided (repository branch : String) (default : Value) :
    List (String × Value) → Value → Prop
  | last {before after : List (String × Value)} {key : String} {value : Value} :
      KeyMatches repository branch key → (∀ later ∈ after, ¬ KeyMatches repository branch later.1) →
        Decided repository branch default (before ++ (key, value) :: after) value
  | unmatched {given : List (String × Value)} :
      (∀ other ∈ given, ¬ KeyMatches repository branch other.1) →
        Decided repository branch default given default

variable {repository branch : String} {default value : Value}

theorem Decided.concat_of_matches {key : String} (h : KeyMatches repository branch key)
    (given : List (String × Value)) :
    Decided repository branch default (given ++ [(key, value)]) value :=
  .last h (by simp)

theorem Decided.concat_of_not_matches {last : String × Value}
    (hlast : ¬ KeyMatches repository branch last.1) {given : List (String × Value)}
    (h : Decided repository branch default given value) :
    Decided repository branch default (given ++ [last]) value := by
  have hconcat {others : List (String × Value)}
      (hothers : ∀ other ∈ others, ¬ KeyMatches repository branch other.1) :
      ∀ other ∈ others ++ [last], ¬ KeyMatches repository branch other.1 :=
    List.forall_mem_append.2 ⟨hothers, List.forall_mem_singleton.2 hlast⟩
  cases h with
  | last hkey hafter =>
      rw [List.append_assoc, List.cons_append]
      exact .last hkey (hconcat hafter)
  | unmatched hgiven => exact .unmatched (hconcat hgiven)

namespace Policy

/-- The policy with one more rule for each key, in order. -/
def overrides (policy : Policy) (given : List (String × Value)) : Except Error Policy :=
  given.foldlM (fun policy entry => policy.override entry.1 entry.2) policy

variable {policy next : Policy}

theorem valueFor_override {key : String} (h : policy.override key value = .ok next)
    (repository branch : String) :
    (KeyMatches repository branch key → next.valueFor repository branch = value) ∧
    (¬ KeyMatches repository branch key →
      next.valueFor repository branch = policy.valueFor repository branch) := by
  obtain ⟨rule, hrule, rfl⟩ := map_eq_ok.1 h
  have hstates := Rule.ofKey_eq_ok_iff.1 hrule
  rw [valueFor_concat, ← hstates.appliesTo_iff, hstates.value_eq]
  constructor
  · intro happlies
    rw [if_pos happlies]
  · intro happlies
    rw [if_neg happlies]

theorem decided_of_overrides {given : List (String × Value)}
    (h : policy.overrides given = .ok next) :
    Decided repository branch (policy.valueFor repository branch) given
      (next.valueFor repository branch) := by
  -- from the end, where the keys stand that go before all others
  induction given using List.reverseRecOn generalizing next with
  | nil =>
      cases h
      exact .unmatched (by simp)
  | append_singleton given last ih =>
      rw [overrides, List.foldlM_append, bind_eq_ok_iff] at h
      obtain ⟨middle, hmiddle, hlast⟩ := h
      rw [List.foldlM_cons, bind_eq_ok_iff] at hlast
      obtain ⟨_, hlast, hnil⟩ := hlast
      cases hnil
      obtain ⟨hmatches, helse⟩ := valueFor_override hlast repository branch
      by_cases hkey : KeyMatches repository branch last.1
      · rw [hmatches hkey]
        exact .concat_of_matches hkey given
      · rw [helse hkey]
        exact (ih hmiddle).concat_of_not_matches hkey

theorem overrides_eq (given : List (String × Value)) :
    overrides {} given =
      (given.mapM fun entry => Rule.ofKey entry.1 entry.2).map fun rules => ⟨rules⟩ :=
  foldlM_concat (f := fun entry : String × Value => Rule.ofKey entry.1 entry.2)
    (fun _ _ => rfl) {} given

theorem overrides_eq_ok {given : List (String × Value)} {rules : List Rule}
    (h : List.Forall₂ (fun entry rule => Rule.States entry.1 entry.2 rule) given rules) :
    overrides {} given = .ok ⟨rules⟩ := by
  have hrules : given.mapM (fun entry => Rule.ofKey entry.1 entry.2) = .ok rules :=
    mapM_eq_ok_iff.2 (h.imp fun _ _ => Rule.ofKey_eq_ok_iff.2)
  rw [overrides_eq, hrules]
  rfl

theorem valueFor_uniform {value : Value} (h : uniform value = .ok policy)
    (repository branch : String) : policy.valueFor repository branch = value := by
  rw [uniform_eq] at h
  cases h
  show valueFor ⟨[] ++ [_]⟩ repository branch = value
  rw [valueFor_concat]
  simp [Rule.appliesTo, Glob.matchesText_anySequence]

end Policy

/-! ## Policies in JSON -/

/-- A list entry that gives a value to one key. -/
def ruleJson (given : String × Value) : Json :=
  .object [(given.1, given.2.toJson)]

/-- What a JSON value decides: itself everywhere, or by the last key of a list that matches. -/
inductive Decides (repository branch : String) : Json → Value → Prop
  | uniform (value : Value) : Decides repository branch value.toJson value
  | list {given : List (String × Value)} {value : Value} :
      Decided repository branch .absent given value →
        Decides repository branch (.array (given.map ruleJson)) value

theorem exists_map_ruleJson {entries : List (List (String × Statement))} {rules : List Rule}
    (h : List.Forall₂ Stated entries rules) :
    ∃ given : List (String × Value), entries.map entryJson = given.map ruleJson ∧
      List.Forall₂ (fun entry rule => Rule.States entry.1 entry.2 rule) given rules := by
  induction h with
  | nil => exact ⟨[], rfl, .nil⟩
  | cons hentry _ ih =>
      obtain @⟨key, statement, value, _, hvalue, hrule⟩ := hentry
      obtain ⟨rest, hrest, hrules⟩ := ih
      have hfirst : entryJson [(key, statement)] = ruleJson (key, value) := by
        simp [entryJson, ruleJson, hvalue]
      exact ⟨(key, value) :: rest, by rw [List.map_cons, List.map_cons, hfirst, hrest],
        .cons hrule hrules⟩

theorem Accepted.decides {j : Json} {rules : List Rule} (h : Accepted j rules)
    (repository branch : String) :
    Decides repository branch j (Policy.valueFor ⟨rules⟩ repository branch) := by
  cases h with
  | uniform hvalue hrule =>
      have huniform : Policy.uniform _ = .ok ⟨[_]⟩ :=
        map_eq_ok.2 ⟨_, Rule.ofKey_eq_ok_iff.2 hrule, rfl⟩
      rw [hvalue, Policy.valueFor_uniform huniform]
      exact .uniform _
  | list hrules =>
      obtain ⟨given, hgiven, hstates⟩ := exists_map_ruleJson hrules
      rw [hgiven]
      exact .list (Policy.decided_of_overrides (Policy.overrides_eq_ok hstates))

/-- A policy decides by the last of its keys that matches, whether it was read or made. -/
theorem Policy.decided_by_last_match (repository branch : String) :
    (∀ j policy, decode j = .ok policy →
      Decides repository branch j (policy.valueFor repository branch)) ∧
    ∀ (policy next : Policy) key value, policy.override key value = .ok next →
      (KeyMatches repository branch key → next.valueFor repository branch = value) ∧
      (¬ KeyMatches repository branch key →
        next.valueFor repository branch = policy.valueFor repository branch) := by
  refine ⟨fun j policy h => ?_, fun policy next key value h => ?_⟩
  · exact (decode_eq_ok_iff.1 h).decides repository branch
  · exact valueFor_override h repository branch

/-- Keys that overlap, with branches before and after one without. -/
def overlappingEntries : List (List (String × Statement)) :=
  [[("*@fix@2", .bool false)], [("acme/*@", .text "draft")], [("*@main", .bool true)]]

def overlappingRules : List Rule :=
  [⟨[.anySequence], some "fix@2", .explicit false⟩,
    ⟨"acme/".toList.map .literal ++ [.anySequence], none, .draft⟩,
    ⟨[.anySequence], some "main", .explicit true⟩]

theorem Policy.decided_by_overlappingEntries :
    ∃ policy next, decode (.array (overlappingEntries.map entryJson)) = .ok policy ∧
      policy.override "acme/app@fix@2" .absent = .ok next ∧
      policy.valueFor "acme/app" "fix@2" = .draft ∧
      Decides "acme/app" "fix@2" (.array (overlappingEntries.map entryJson))
        (policy.valueFor "acme/app" "fix@2") ∧
      next.valueFor "acme/app" "fix@2" = .absent := by
  have hentries : ofEntries overlappingEntries = .ok ⟨overlappingRules⟩ := by decide +kernel
  have hdecode : decode (.array (overlappingEntries.map entryJson)) = .ok ⟨overlappingRules⟩ := by
    rw [decode_list, hentries]
    rfl
  have hparse : Glob.parse "acme/app" = .ok ("acme/app".toList.map .literal) := by decide +kernel
  have hparts : KeyParts "acme/app@fix@2" "acme/app" (some "fix@2") :=
    (by decide : "acme/app" ++ "@" ++ "fix@2" = "acme/app@fix@2") ▸ .suffixed (by decide)
  have hmatches : Glob.matchesText ("acme/app".toList.map .literal) "acme/app".toList = true := by
    decide +kernel
  have hkey : KeyMatches "acme/app" "fix@2" "acme/app@fix@2" :=
    ⟨_, _, hparts, ⟨_, Glob.parse_eq_ok_iff.1 hparse, Glob.matchesText_iff.1 hmatches⟩, by simp⟩
  have hoverride : override ⟨overlappingRules⟩ "acme/app@fix@2" .absent =
      .ok ⟨overlappingRules ++ [⟨"acme/app".toList.map .literal, some "fix@2", .absent⟩]⟩ := by
    decide +kernel
  obtain ⟨hread, hmade⟩ := decided_by_last_match "acme/app" "fix@2"
  exact ⟨_, _, hdecode, hoverride, by decide +kernel, hread _ _ hdecode,
    (hmade _ _ _ _ hoverride).1 hkey⟩

end Changesets.Publication
