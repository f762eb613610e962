import Changesets.Proofs.Fallible
import Changesets.Proofs.Publication.Policy
import Changesets.Publication.Wire

/-!
Which JSON values are publication policies, and why the others are not. The types of the whole value
come first; then, of the entries of a list, the first that states no rule is the one reported.
-/
namespace Changesets.Publication

/-! ## Values -/

namespace Statement

def toJson : Statement → Json
  | bool published => .bool published
  | text s => .string s

variable {statement : Statement}

theorem ofJson?_eq_some_iff {j : Json} : ofJson? j = some statement ↔ j = statement.toJson := by
  cases statement <;> cases j <;> simp [ofJson?, toJson]

/-- A statement says the value with the same JSON. -/
theorem value_eq_ok_iff {value : Value} :
    statement.value = .ok value ↔ statement.toJson = value.toJson := by
  cases statement with
  | bool => cases value <;> simp [Statement.value, toJson, Value.toJson]
  | text s =>
      by_cases hs : s = "draft" <;>
        cases value <;> simp [Statement.value, Value.ofText, toJson, Value.toJson, hs]

theorem value_eq_error_iff {e : Error} :
    statement.value = .error e ↔ ∃ s, s ≠ "draft" ∧ statement = .text s ∧ e = .invalidValue s := by
  cases statement with
  | bool => simp [Statement.value]
  | text s => by_cases hs : s = "draft" <;> simp [Statement.value, Value.ofText, hs, eq_comm]

end Statement

/-! ## Entries of a list -/

/-- An object of booleans and texts. -/
def entryJson (entry : List (String × Statement)) : Json :=
  .object (entry.map fun (key, statement) => (key, statement.toJson))

theorem entryOfJson?_eq_some_iff {j : Json} {entry : List (String × Statement)} :
    entryOfJson? j = some entry ↔ j = entryJson entry := by
  cases j with
  | object members =>
      rw [entryOfJson?, mapM_eq_some_iff (g := fun (key, statement) => (key, statement.toJson)),
        entryJson, Json.object.injEq]
      intro member given
      obtain ⟨name, j⟩ := member
      obtain ⟨key, statement⟩ := given
      simp [Statement.ofJson?_eq_some_iff, and_comm]
  | _ => simp [entryOfJson?, entryJson]

/-- The entry has not exactly one key, a text that is no value, or a key without a glob. -/
def Faulty (entry : List (String × Statement)) : Prop :=
  entry.length ≠ 1 ∨ (∃ key s, (key, .text s) ∈ entry ∧ s ≠ "draft") ∨
    ∃ key statement pattern suffix, (key, statement) ∈ entry ∧ KeyParts key pattern suffix ∧
      ¬ Glob.IsPattern pattern

/-- What is reported of an entry: its shape before its value, and that before its key. -/
inductive Reported : List (String × Statement) → Error → Prop
  | shape {entry : List (String × Statement)} : entry.length ≠ 1 →
      Reported entry (.invalidRuleShape entry.length)
  | value {key s : String} : s ≠ "draft" → Reported [(key, .text s)] (.invalidValue s)
  | pattern {key pattern : String} {suffix : Option String} {statement : Statement} {value : Value}
      {reason : Glob.Error} : statement.toJson = value.toJson → KeyParts key pattern suffix →
      Glob.parse pattern = .error reason →
        Reported [(key, statement)] (.invalidPattern key reason)

/-- The entry states the rule. -/
inductive Stated : List (String × Statement) → Rule → Prop
  | mk {key : String} {statement : Statement} {value : Value} {rule : Rule} :
      statement.toJson = value.toJson → Rule.States key value rule → Stated [(key, statement)] rule

def Rule.ofEntry : List (String × Statement) → Except Error Rule
  | [(key, statement)] => do Rule.ofKey key (← statement.value)
  | entry => .error (.invalidRuleShape entry.length)

variable {entry : List (String × Statement)}

theorem Rule.ofEntry_of_length_ne (h : entry.length ≠ 1) :
    ofEntry entry = .error (.invalidRuleShape entry.length) := by
  match entry with
  | [] => rfl
  | [_] => exact absurd rfl h
  | _ :: _ :: _ => rfl

theorem Rule.ofEntry_eq_ok_iff {rule : Rule} : ofEntry entry = .ok rule ↔ Stated entry rule := by
  constructor
  · intro h
    by_cases hlength : entry.length = 1
    · obtain ⟨⟨key, statement⟩, rfl⟩ := List.length_eq_one_iff.1 hlength
      obtain ⟨value, hvalue, hrule⟩ := bind_eq_ok_iff.1 h
      exact .mk (Statement.value_eq_ok_iff.1 hvalue) (ofKey_eq_ok_iff.1 hrule)
    · rw [ofEntry_of_length_ne hlength] at h
      cases h
  · rintro ⟨hvalue, hrule⟩
    exact bind_eq_ok_iff.2 ⟨_, Statement.value_eq_ok_iff.2 hvalue, ofKey_eq_ok_iff.2 hrule⟩

theorem Rule.ofEntry_eq_error_iff {e : Error} :
    ofEntry entry = .error e ↔ Reported entry e := by
  constructor
  · intro h
    by_cases hlength : entry.length = 1
    · obtain ⟨⟨key, statement⟩, rfl⟩ := List.length_eq_one_iff.1 hlength
      rcases bind_eq_error_iff.1 h with hvalue | ⟨value, hvalue, hkey⟩
      · obtain ⟨s, hs, rfl, rfl⟩ := Statement.value_eq_error_iff.1 hvalue
        exact .value hs
      · obtain ⟨pattern, suffix, reason, hparts, hpattern, rfl⟩ := ofKey_eq_error_iff.1 hkey
        exact .pattern (Statement.value_eq_ok_iff.1 hvalue) hparts hpattern
    · rw [ofEntry_of_length_ne hlength] at h
      cases h
      exact .shape hlength
  · intro h
    cases h with
    | shape hlength => exact ofEntry_of_length_ne hlength
    | value hs => exact bind_eq_error_iff.2 (.inl (Statement.value_eq_error_iff.2 ⟨_, hs, rfl, rfl⟩))
    | pattern hvalue hparts hpattern =>
        exact bind_eq_error_iff.2 (.inr ⟨_, Statement.value_eq_ok_iff.2 hvalue,
          ofKey_eq_error_iff.2 ⟨_, _, _, hparts, hpattern, rfl⟩⟩)

theorem faulty_iff : Faulty entry ↔ ∃ e, Reported entry e := by
  constructor
  · intro h
    by_cases hlength : entry.length = 1
    · obtain ⟨⟨key, statement⟩, rfl⟩ := List.length_eq_one_iff.1 hlength
      cases hvalue : statement.value with
      | error e =>
          obtain ⟨s, hs, rfl, -⟩ := Statement.value_eq_error_iff.1 hvalue
          exact ⟨_, .value hs⟩
      | ok value =>
          -- the value is good, so that only the key can be at fault
          rcases h with h | ⟨_, s, hmem, hs⟩ | ⟨_, _, pattern, suffix, hmem, hparts, hpattern⟩
          · exact absurd hlength h
          · cases List.mem_singleton.1 hmem
            have herror := Statement.value_eq_error_iff.2 ⟨s, hs, rfl, rfl⟩
            rw [herror] at hvalue
            cases hvalue
          · cases List.mem_singleton.1 hmem
            obtain ⟨reason, hreason⟩ := Glob.exists_parse_eq_error_iff.2 hpattern
            exact ⟨_, .pattern (Statement.value_eq_ok_iff.1 hvalue) hparts hreason⟩
    · exact ⟨_, .shape hlength⟩
  · rintro ⟨e, hlength | hs | ⟨-, hparts, hreason⟩⟩
    · exact .inl hlength
    · exact .inr (.inl ⟨_, _, List.mem_singleton_self _, hs⟩)
    · exact .inr (.inr ⟨_, _, _, _, List.mem_singleton_self _, hparts,
        Glob.exists_parse_eq_error_iff.1 ⟨_, hreason⟩⟩)

theorem not_faulty_iff : ¬ Faulty entry ↔ ∃ rule, Rule.ofEntry entry = .ok rule := by
  simp only [faulty_iff, ← Rule.ofEntry_eq_error_iff]
  cases Rule.ofEntry entry <;> simp

/-! ## Policies -/

theorem head?_toList_append {s t : String} {c : Char} (h : s.toList.head? = some c) :
    (s ++ t).toList.head? = some c := by
  rw [String.toList_append, List.head?_append, h, Option.some_or]

/-- No message about a value or an entry is the one about types. -/
theorem Error.message_ne (e : Error) :
    e.message ≠ "data did not match any variant of untagged enum RawPublishedPolicy" := by
  have hhead : e.message.toList.head? = some 'i' ∨ e.message.toList.head? = some 'p' := by
    cases e with
    | invalidValue => exact .inl (head?_toList_append (head?_toList_append (by decide)))
    | invalidRuleShape => exact .inr (head?_toList_append (by decide))
    | invalidPattern =>
        exact .inl (head?_toList_append (head?_toList_append (head?_toList_append (by decide))))
  intro h
  rw [h] at hhead
  revert hhead
  decide

/-- A boolean, a text, or a list of objects of those. -/
inductive WellTyped : Json → Prop
  | uniform (statement : Statement) : WellTyped statement.toJson
  | list (entries : List (List (String × Statement))) : WellTyped (.array (entries.map entryJson))

/-- What a JSON value that is no policy is refused with. -/
inductive Refused : Json → Json.Fault → Prop
  | type {j : Json} : ¬ WellTyped j → Refused j (.noVariant "RawPublishedPolicy")
  | text {s : String} : s ≠ "draft" → Refused (.string s) (.publication (.invalidValue s))
  | entry {before after : List (List (String × Statement))} {entry : List (String × Statement)}
      {e : Error} : (∀ other ∈ before, ¬ Faulty other) → Reported entry e →
        Refused (.array ((before ++ entry :: after).map entryJson)) (.publication e)

/-- The rules that a JSON value states: one for all repositories, or one for each entry. -/
inductive Accepted : Json → List Rule → Prop
  | uniform {statement : Statement} {value : Value} {rule : Rule} :
      statement.toJson = value.toJson → Rule.States "*" value rule →
        Accepted statement.toJson [rule]
  | list {entries : List (List (String × Statement))} {rules : List Rule} :
      List.Forall₂ Stated entries rules → Accepted (.array (entries.map entryJson)) rules

namespace Policy

/-- Steps that add one rule each add the rules of all items, or fail as the first does. -/
theorem foldlM_concat {α : Type} {f : α → Except Error Rule}
    {step : Policy → α → Except Error Policy}
    (h : ∀ policy item, step policy item = (f item).map fun rule => ⟨policy.rules ++ [rule]⟩)
    (policy : Policy) (items : List α) :
    items.foldlM step policy = (items.mapM f).map fun rules => ⟨policy.rules ++ rules⟩ := by
  induction items generalizing policy with
  | nil => simp [pure, Except.pure]
  | cons item items ih =>
      rw [List.foldlM_cons, List.mapM_cons, h]
      cases f item with
      | error e => rfl
      | ok rule =>
          show items.foldlM step ⟨policy.rules ++ [rule]⟩ = _
          rw [ih]
          cases items.mapM f <;> simp [bind, Except.bind, pure, Except.pure]

theorem addEntry_eq (policy : Policy) (entry : List (String × Statement)) :
    addEntry policy entry = (Rule.ofEntry entry).map fun rule => ⟨policy.rules ++ [rule]⟩ := by
  match entry with
  | [(key, statement)] =>
      show (do policy.override key (← statement.value)) = _
      cases h : statement.value <;> simp [Rule.ofEntry, h, override, bind, Except.bind]
  | [] | _ :: _ :: _ => rfl

theorem ofEntries_eq (entries : List (List (String × Statement))) :
    ofEntries entries = (entries.mapM Rule.ofEntry).map fun rules => ⟨rules⟩ :=
  foldlM_concat addEntry_eq {} entries

theorem decode_uniform (statement : Statement) :
    decode statement.toJson =
      ((do uniform (← statement.value)) : Except Error Policy).mapError .publication := by
  cases statement <;> rfl

theorem decode_list (entries : List (List (String × Statement))) :
    decode (.array (entries.map entryJson)) = (ofEntries entries).mapError .publication := by
  have h : (entries.map entryJson).mapM entryOfJson? = some entries :=
    (mapM_eq_some_iff fun _ _ => entryOfJson?_eq_some_iff).2 rfl
  rw [decode, ofJson?, h]
  rfl

theorem wellTyped_of_ofJson?_eq_some {j : Json} {result : Except Error Policy}
    (h : ofJson? j = some result) : WellTyped j := by
  unfold ofJson? at h
  split at h
  · obtain ⟨entries, hentries, -⟩ := Option.map_eq_some_iff.1 h
    rw [mapM_eq_some_iff fun _ _ => entryOfJson?_eq_some_iff] at hentries
    exact hentries ▸ .list entries
  · obtain ⟨statement, hstatement, -⟩ := Option.map_eq_some_iff.1 h
    exact Statement.ofJson?_eq_some_iff.1 hstatement ▸ .uniform statement

theorem decode_of_not_wellTyped {j : Json} (h : ¬ WellTyped j) :
    decode j = .error (.noVariant "RawPublishedPolicy") := by
  have hnone : ofJson? j = none :=
    Option.eq_none_iff_forall_ne_some.2 fun _ hsome => h (wellTyped_of_ofJson?_eq_some hsome)
  rw [decode, hnone]

theorem uniform_eq (value : Value) : uniform value = .ok ⟨[⟨[.anySequence], none, value⟩]⟩ := by
  have hparts : KeyParts "*" "*" none := .plain (by decide)
  rw [uniform, override, Rule.ofKey_of_keyParts hparts, Glob.parse_asterisk]
  rfl

theorem decode_eq_ok_iff {j : Json} {policy : Policy} :
    decode j = .ok policy ↔ Accepted j policy.rules := by
  constructor
  · intro h
    by_cases htyped : WellTyped j
    · cases htyped with
      | uniform statement =>
          rw [decode_uniform, mapError_eq_ok_iff, bind_eq_ok_iff] at h
          obtain ⟨value, hvalue, hpolicy⟩ := h
          obtain ⟨rule, hrule, rfl⟩ := map_eq_ok.1 hpolicy
          exact .uniform (Statement.value_eq_ok_iff.1 hvalue) (Rule.ofKey_eq_ok_iff.1 hrule)
      | list entries =>
          rw [decode_list, mapError_eq_ok_iff, ofEntries_eq, map_eq_ok] at h
          obtain ⟨rules, hrules, rfl⟩ := h
          rw [mapM_eq_ok_iff] at hrules
          exact .list (hrules.imp fun _ _ => Rule.ofEntry_eq_ok_iff.1)
    · rw [decode_of_not_wellTyped htyped] at h
      cases h
  · intro h
    obtain ⟨rules⟩ := policy
    cases h with
    | uniform hvalue hrule =>
        rw [decode_uniform, mapError_eq_ok_iff, bind_eq_ok_iff]
        exact ⟨_, Statement.value_eq_ok_iff.2 hvalue,
          map_eq_ok.2 ⟨_, Rule.ofKey_eq_ok_iff.2 hrule, rfl⟩⟩
    | list hrules =>
        rw [decode_list, mapError_eq_ok_iff, ofEntries_eq, map_eq_ok]
        exact ⟨rules, mapM_eq_ok_iff.2 (hrules.imp fun _ _ => Rule.ofEntry_eq_ok_iff.2), rfl⟩

theorem decode_eq_error_iff {j : Json} {fault : Json.Fault} :
    decode j = .error fault ↔ Refused j fault := by
  constructor
  · intro h
    by_cases htyped : WellTyped j
    · cases htyped with
      | uniform statement =>
          rw [decode_uniform, mapError_eq_error_iff] at h
          obtain ⟨e, he, rfl⟩ := h
          rcases bind_eq_error_iff.1 he with hvalue | ⟨value, -, hpolicy⟩
          · obtain ⟨s, hs, rfl, rfl⟩ := Statement.value_eq_error_iff.1 hvalue
            exact .text hs
          · rw [uniform_eq] at hpolicy
            cases hpolicy
      | list entries =>
          rw [decode_list, mapError_eq_error_iff] at h
          obtain ⟨e, he, rfl⟩ := h
          rw [ofEntries_eq, map_eq_error_iff, mapM_eq_error_iff] at he
          obtain ⟨before, entry, after, rfl, hbefore, hentry⟩ := he
          exact .entry (fun other hother => not_faulty_iff.2 (hbefore other hother))
            (Rule.ofEntry_eq_error_iff.1 hentry)
    · rw [decode_of_not_wellTyped htyped] at h
      cases h
      exact .type htyped
  · intro h
    cases h with
    | type htyped => exact decode_of_not_wellTyped htyped
    | @text s hs =>
        have hvalue : Statement.value (.text s) = .error (.invalidValue s) :=
          Statement.value_eq_error_iff.2 ⟨s, hs, rfl, rfl⟩
        show decode (Statement.toJson (.text s)) = _
        rw [decode_uniform, hvalue]
        rfl
    | entry hbefore hentry =>
        rw [decode_list, mapError_eq_error_iff]
        refine ⟨_, ?_, rfl⟩
        rw [ofEntries_eq, map_eq_error_iff, mapM_eq_error_iff]
        exact ⟨_, _, _, rfl, fun other hother => not_faulty_iff.1 (hbefore other hother),
          Rule.ofEntry_eq_error_iff.2 hentry⟩

theorem exists_decode_list_eq_error_iff {entries : List (List (String × Statement))} :
    (∃ fault, decode (.array (entries.map entryJson)) = .error fault) ↔
      ∃ entry ∈ entries, Faulty entry := by
  rw [decode_list, ofEntries_eq]
  constructor
  · rintro ⟨fault, hfault⟩
    obtain ⟨e, he, -⟩ := mapError_eq_error_iff.1 hfault
    obtain ⟨before, entry, after, rfl, -, hentry⟩ := mapM_eq_error_iff.1 (map_eq_error_iff.1 he)
    exact ⟨entry, by simp, faulty_iff.2 ⟨e, Rule.ofEntry_eq_error_iff.1 hentry⟩⟩
  · rintro ⟨entry, hmem, hfaulty⟩
    cases h : entries.mapM Rule.ofEntry with
    | error e => exact ⟨_, rfl⟩
    | ok rules =>
        obtain ⟨rule, -, hrule⟩ := exists_mem_of_forall₂ (mapM_eq_ok_iff.1 h) hmem
        exact absurd hfaulty (not_faulty_iff.2 ⟨rule, hrule⟩)

/-- Every JSON value is refused for one reason, or states the rules of its policy. -/
theorem decode_refused_or_accepted (j : Json) :
    (∀ fault, decode j = .error fault ↔ Refused j fault) ∧
    (∀ policy, decode j = .ok policy ↔ Accepted j policy.rules) ∧
    ((∃ fault, decode j = .error fault ∧
      fault.message = "data did not match any variant of untagged enum RawPublishedPolicy") ↔
        ¬ WellTyped j) ∧
    ∀ entries : List (List (String × Statement)),
      (∃ fault, decode (.array (entries.map entryJson)) = .error fault) ↔
        ∃ entry ∈ entries, Faulty entry := by
  refine ⟨fun fault => decode_eq_error_iff, fun policy => decode_eq_ok_iff, ?_,
    fun entries => exists_decode_list_eq_error_iff⟩
  constructor
  · rintro ⟨fault, hfault, hmessage⟩
    cases decode_eq_error_iff.1 hfault with
    | type htyped => exact htyped
    | text => exact absurd hmessage (Error.message_ne (.invalidValue _))
    | entry => exact absurd hmessage (Error.message_ne _)
  · intro htyped
    exact ⟨_, decode_of_not_wellTyped htyped, rfl⟩

end Policy

end Changesets.Publication
