import Changesets.Proofs.Json.Record

/-!
Objects that state some members of a record and leave out others: what the record recovers from them,
and how it refuses them when one member is faulty.
-/
namespace Changesets.Json

/-- The members that have a value. -/
def statedMembers (members : List (String × Option Json)) : List (String × Json) :=
  members.filterMap fun (key, value) => value.map (key, ·)

def ofStated (members : List (String × Option Json)) : Json :=
  .object (statedMembers members)

section
variable {members : List (String × Option Json)}

theorem mem_statedMembers {key : String} {j : Json} :
    (key, j) ∈ statedMembers members ↔ (key, some j) ∈ members := by
  simp [statedMembers]

theorem nodup_keys_statedMembers (h : (members.map Prod.fst).Nodup) :
    ((statedMembers members).map Prod.fst).Nodup := by
  refine List.Nodup.sublist ?_ h
  induction members with
  | nil => exact .slnil
  | cons member members ih =>
      obtain ⟨key, value⟩ := member
      have hrest := ih (List.nodup_cons.1 h).2
      cases value with
      | none => exact hrest.cons key
      | some j => exact hrest.cons_cons key

theorem lookup_statedMembers (h : (members.map Prod.fst).Nodup) (key : String) :
    (statedMembers members).lookup key = (members.lookup key).join := by
  apply Option.ext
  intro j
  rw [lookup_eq_some_iff_mem (nodup_keys_statedMembers h), mem_statedMembers, Option.join_eq_some_iff,
    lookup_eq_some_iff_mem h]

end

variable {α β : Type}

/-- The reader refuses this JSON with the fault, in whatever order the members of its objects are. -/
def Decoder.Refuses (value : Decoder α) (j : Json) (fault : Fault) : Prop :=
  ∀ j', Reorders j j' → value j' = .error fault

theorem Decoder.refuses_nullable {value : Decoder α} {j : Json} {fault : Fault} (hj : j ≠ .null)
    (h : value.Refuses j fault) : (nullable value).Refuses j fault := by
  intro j' hj'
  have hvalue : (value j').map some = .error fault := by rw [h j' hj', map_error]
  cases j' with
  | null =>
      cases hj'
      exact absurd rfl hj
  | _ => exact hvalue

namespace Record

/-- Some member that the record tests has the fault, and no other fault is in any of them. -/
structure Refuses (record : Record α) (members : List (String × Json)) (fault : Fault) : Prop where
  faulty : ∀ ms, SameMembers members ms → ∃ key check j, (key, check) ∈ record.checks ∧
    ms.lookup key = some j ∧ check j = .error fault
  only : ∀ ms, SameMembers members ms → ∀ key check, (key, check) ∈ record.checks →
    ∀ j, ms.lookup key = some j → check j = .ok () ∨ check j = .error fault

section
variable {members : List (String × Json)} {key : String} {value : Decoder α} {j : Json} {a : α}
  {fault : Fault}

/-- A field that may be left out, and is stated or not. -/
theorem recovers_optional_of_stated {toJson : β → Json} {make : β → α} (stated : Option β)
    (default : α) (hkey : members.lookup key = stated.map toJson)
    (h : ∀ b, value.Recovers (toJson b) (make b)) :
    (optional key value default).Recovers members (stated.elim default make) := by
  cases stated with
  | none => exact recovers_optional_of_absent hkey
  | some b => exact recovers_optional default hkey (h b)

/-- A record that tests one member refuses what its reader refuses. -/
theorem refuses_of_checks_eq {record : Record α}
    (hchecks : record.checks = [(key, fun j => (value j).map fun _ => ())])
    (hkey : members.lookup key = some j) (h : value.Refuses j fault) :
    record.Refuses members fault where
  faulty ms hsame := by
    obtain ⟨j', hj', hvalue⟩ := hsame.lookup_eq_some hkey
    exact ⟨key, _, j', hchecks ▸ List.mem_singleton_self _, hj', map_eq_error_iff.2 (h j' hvalue)⟩
  only ms hsame k check hcheck j' hj' := by
    rw [hchecks] at hcheck
    obtain ⟨rfl, rfl⟩ := Prod.mk.inj (List.mem_singleton.1 hcheck)
    obtain ⟨j'', hj'', hvalue⟩ := hsame.lookup_eq_some hkey
    obtain rfl := Option.some.inj (hj''.symm.trans hj')
    exact .inr (map_eq_error_iff.2 (h _ hvalue))

theorem refuses_required (hkey : members.lookup key = some j) (h : value.Refuses j fault) :
    (required key value).Refuses members fault :=
  refuses_of_checks_eq rfl hkey h

theorem refuses_optional {default : α} (hkey : members.lookup key = some j)
    (h : value.Refuses j fault) : (optional key value default).Refuses members fault :=
  refuses_of_checks_eq rfl hkey h

theorem Recovers.seq_refuses {f : Record (α → β)} {x : Record α} {g : α → β}
    (hf : f.Recovers members g) (hx : x.Refuses members fault) :
    (f <*> x).Refuses members fault where
  faulty ms hsame := by
    obtain ⟨key, check, j, hcheck, hj, hfault⟩ := hx.faulty ms hsame
    exact ⟨key, check, j, List.mem_append_right _ hcheck, hj, hfault⟩
  only ms hsame key check hcheck j hj :=
    (List.mem_append.1 hcheck).elim (fun hmem => .inl (hf.checks ms hsame key check hmem j hj))
      fun hmem => hx.only ms hsame key check hmem j hj

theorem Refuses.seq_recovers {f : Record (α → β)} {x : Record α} (hf : f.Refuses members fault)
    (hx : x.Recovers members a) : (f <*> x).Refuses members fault where
  faulty ms hsame := by
    obtain ⟨key, check, j, hcheck, hj, hfault⟩ := hf.faulty ms hsame
    exact ⟨key, check, j, List.mem_append_left _ hcheck, hj, hfault⟩
  only ms hsame key check hcheck j hj :=
    (List.mem_append.1 hcheck).elim (fun hmem => hf.only ms hsame key check hmem j hj)
      fun hmem => .inl (hx.checks ms hsame key check hmem j hj)

end

/-- An object with these members, in whatever order, is refused as the record refuses them. -/
theorem Refuses.decode {record : Record α} {members : List (String × Json)} {fault : Fault}
    (h : record.Refuses members fault) (hkeys : (members.map Prod.fst).Nodup)
    (hchecks : (record.checks.map Prod.fst).Nodup) (type : String) :
    (record.decode type).Refuses (.object members) fault := by
  intro j hj
  obtain ⟨ms, rfl, hsame, hms⟩ := hj.object_inv hkeys
  have herror : checkMembers record.checks ms = .error fault := by
    refine (checkMembers_eq_ok_or_error fun key j hmem check hcheck => ?_).resolve_left ?_
    · exact h.only ms hsame key check ((lookup_eq_some_iff_mem hchecks).1 hcheck) j
        ((lookup_eq_some_iff_mem hms).2 hmem)
    · intro hok
      obtain ⟨key, check, j, hcheck, hj, hfault⟩ := h.faulty ms hsame
      have hpasses := checkMembers_eq_ok_iff.1 hok key j ((lookup_eq_some_iff_mem hms).1 hj) check
        ((lookup_eq_some_iff_mem hchecks).2 hcheck)
      rw [hfault] at hpasses
      cases hpasses
  rw [Record.decode, herror]
  rfl

/-! ## Objects that leave out members -/

section
variable {record : Record α} {members : List (String × Option Json)}

theorem recovers_ofStated {a : α} (hkeys : (members.map Prod.fst).Nodup)
    (h : ∀ ms, (∀ key, ms.lookup key = (members.lookup key).join) → record.Recovers ms a)
    (type : String) : (record.decode type).Recovers (ofStated members) a :=
  (h _ (lookup_statedMembers hkeys)).decode (nodup_keys_statedMembers hkeys) type

theorem refuses_ofStated {fault : Fault} (hkeys : (members.map Prod.fst).Nodup)
    (hchecks : (record.checks.map Prod.fst).Nodup)
    (h : ∀ ms, (∀ key, ms.lookup key = (members.lookup key).join) → record.Refuses ms fault)
    (type : String) : (record.decode type).Refuses (ofStated members) fault :=
  (h _ (lookup_statedMembers hkeys)).decode (nodup_keys_statedMembers hkeys) hchecks type

end

end Record

end Changesets.Json
