import Changesets.Json.Decode
import Changesets.Proofs.Fallible
import Mathlib.Data.List.Nodup

/-!
What readers make of JSON whose members come in any order. A reader recovers a value from some JSON
if it gives that value however the members of the objects in it are ordered. There is one lemma for
each way to build a reader or a record, and one for the object that a whole record reads.
-/
namespace Changesets.Json

/-- The values are the same but for the order of the members of objects. -/
inductive Reorders : Json → Json → Prop
  | refl (j : Json) : Reorders j j
  | array {xs ys : List Json} : List.Forall₂ Reorders xs ys → Reorders (.array xs) (.array ys)
  | object {xs ys zs : List (String × Json)} :
      xs.map Prod.fst = ys.map Prod.fst →
        List.Forall₂ Reorders (xs.map Prod.snd) (ys.map Prod.snd) → ys.Perm zs →
          Reorders (.object xs) (.object zs)

/-! ## Members -/

theorem lookup_eq_some_iff_mem {β : Type} {members : List (String × β)}
    (h : (members.map Prod.fst).Nodup) {key : String} {value : β} :
    members.lookup key = some value ↔ (key, value) ∈ members := by
  induction members with
  | nil => simp
  | cons member members ih =>
      obtain ⟨k, v⟩ := member
      obtain ⟨hk, hrest⟩ := List.nodup_cons.1 h
      rw [List.lookup_cons, List.mem_cons, Prod.mk.injEq]
      by_cases hkey : key = k
      · subst hkey
        have hother : (key, value) ∉ members := fun hmem => hk (List.mem_map.2 ⟨_, hmem, rfl⟩)
        simp [hother, eq_comm]
      · have hne : (key == k) = false := beq_false_of_ne hkey
        simp [hne, hkey, ih hrest]

theorem lookup_eq_of_perm {xs ys : List (String × Json)} (hkeys : (xs.map Prod.fst).Nodup)
    (h : xs.Perm ys) (key : String) : xs.lookup key = ys.lookup key := by
  have hkeys' : (ys.map Prod.fst).Nodup := (h.map Prod.fst).nodup_iff.1 hkeys
  apply Option.ext
  intro value
  rw [lookup_eq_some_iff_mem hkeys, lookup_eq_some_iff_mem hkeys']
  exact h.mem_iff

/-- Each key has the same value in both lists, if any, but for the order of members inside it. -/
def SameMembers (xs ys : List (String × Json)) : Prop :=
  ∀ key, Option.Rel Reorders (xs.lookup key) (ys.lookup key)

theorem SameMembers.refl (members : List (String × Json)) : SameMembers members members := by
  intro key
  cases members.lookup key with
  | none => exact .none
  | some value => exact .some (.refl value)

theorem SameMembers.lookup_eq_some {xs ys : List (String × Json)} (h : SameMembers xs ys)
    {key : String} {value : Json} (hkey : xs.lookup key = some value) :
    ∃ value', ys.lookup key = some value' ∧ Reorders value value' := by
  have hrel := h key
  rw [hkey] at hrel
  generalize ys.lookup key = other at hrel
  cases hrel with
  | some hvalue => exact ⟨_, rfl, hvalue⟩

theorem SameMembers.lookup_eq_none {xs ys : List (String × Json)} (h : SameMembers xs ys)
    {key : String} (hkey : xs.lookup key = none) : ys.lookup key = none := by
  have hrel := h key
  rw [hkey] at hrel
  generalize ys.lookup key = other at hrel
  cases hrel
  rfl

theorem sameMembers_of_forall₂ {xs ys : List (String × Json)}
    (hkeys : xs.map Prod.fst = ys.map Prod.fst)
    (hvalues : List.Forall₂ Reorders (xs.map Prod.snd) (ys.map Prod.snd)) : SameMembers xs ys := by
  induction xs generalizing ys with
  | nil =>
      obtain rfl := List.map_eq_nil_iff.1 hkeys.symm
      exact .refl []
  | cons x xs ih =>
      obtain ⟨y, ys, rfl, hy, hys⟩ := List.map_eq_cons_iff.1 hkeys.symm
      obtain ⟨hvalue, hrest⟩ := List.forall₂_cons.1 hvalues
      intro key
      rw [List.lookup_cons, List.lookup_cons, hy]
      cases key == x.1 with
      | true => exact .some hvalue
      | false => exact ih hys.symm hrest key

theorem Reorders.object_inv {xs : List (String × Json)} {j : Json}
    (hkeys : (xs.map Prod.fst).Nodup) (h : Reorders (.object xs) j) :
    ∃ zs, j = .object zs ∧ SameMembers xs zs ∧ (zs.map Prod.fst).Nodup := by
  cases h with
  | refl => exact ⟨xs, rfl, .refl xs, hkeys⟩
  | @object _ ys zs hmap hvalues hperm =>
      have hkeys' : (ys.map Prod.fst).Nodup := hmap ▸ hkeys
      refine ⟨zs, rfl, fun key => ?_, (hperm.map Prod.fst).nodup_iff.1 hkeys'⟩
      rw [← lookup_eq_of_perm hkeys' hperm]
      exact sameMembers_of_forall₂ hmap hvalues key

/-! ## Readers -/

variable {α β : Type}

/-- The reader gives the value for this JSON, in whatever order the members of its objects are. -/
def Decoder.Recovers (value : Decoder α) (j : Json) (a : α) : Prop :=
  ∀ j', Reorders j j' → value j' = .ok a

namespace Decoder

theorem recovers_text (s : String) : text.Recovers (.string s) s := by
  intro j h
  cases h
  rfl

theorem mapM_of_reorders {item : Decoder α} {js js' : List Json} {as : List α}
    (h : List.Forall₂ item.Recovers js as) (hjs : List.Forall₂ Reorders js js') :
    js'.mapM item = .ok as := by
  rw [mapM_eq_ok_iff]
  -- on the pairs of elements, since an array keeps its order
  induction hjs generalizing as with
  | nil =>
      cases h
      exact .nil
  | cons hfirst _ ih =>
      cases h with
      | cons ha has => exact .cons (ha _ hfirst) (ih has)

theorem recovers_listOf {item : Decoder α} {js : List Json} {as : List α}
    (h : List.Forall₂ item.Recovers js as) : (listOf item).Recovers (.array js) as := by
  intro j hj
  cases hj with
  | refl => exact mapM_of_reorders h (List.forall₂_same.2 fun j _ => .refl j)
  | array hjs => exact mapM_of_reorders h hjs

theorem recovers_listOf_map_map {item : Decoder α} {toJson : β → Json} {make : β → α}
    (h : ∀ b, item.Recovers (toJson b) (make b)) (bs : List β) :
    (listOf item).Recovers (.array (bs.map toJson)) (bs.map make) :=
  recovers_listOf (List.forall₂_map_left_iff.2 (List.forall₂_map_right_iff.2
    (List.forall₂_same.2 fun b _ => h b)))

theorem recovers_listOf_map {item : Decoder α} {toJson : α → Json}
    (h : ∀ a, item.Recovers (toJson a) a) (as : List α) :
    (listOf item).Recovers (.array (as.map toJson)) as := by
  simpa only [List.map_id'] using recovers_listOf_map_map h as

theorem recovers_nullable {value : Decoder α} {j : Json} {a : α} (hj : j ≠ .null)
    (h : value.Recovers j a) : (nullable value).Recovers j (some a) := by
  intro j' hj'
  have hvalue : (value j').map some = .ok (some a) := by rw [h j' hj', map_ok]
  cases j' with
  | null =>
      cases hj'
      exact absurd rfl hj
  | _ => exact hvalue

end Decoder

/-! ## Records -/

namespace Record

open Decoder (Recovers)

/-- The record reads the value from these members in this order, and no test of them fails. -/
structure Reads (record : Record α) (members : List (String × Json)) (a : α) : Prop where
  read : ∀ type size index, record.read type size index (.named members) = .ok a
  checks : ∀ key check, (key, check) ∈ record.checks →
    ∀ j, members.lookup key = some j → check j = .ok ()

section
variable {members : List (String × Json)} {key : String} {value : Decoder α} {j : Json} {a : α}

theorem reads_required (hkey : members.lookup key = some j) (h : value j = .ok a) :
    (required key value).Reads members a where
  read type size index := by simp only [required, Source.get?, hkey, h]
  checks k check hcheck j' hj' := by
    obtain ⟨rfl, rfl⟩ := Prod.mk.inj (List.mem_singleton.1 hcheck)
    obtain rfl := Option.some.inj (hkey.symm.trans hj')
    show (value j).map (fun _ => ()) = .ok ()
    rw [h, map_ok]

theorem reads_optional (default : α) (hkey : members.lookup key = some j) (h : value j = .ok a) :
    (optional key value default).Reads members a where
  read type size index := by simp only [optional, Source.get?, hkey, h]
  checks := (reads_required hkey h).checks

theorem reads_optional_of_absent (hkey : members.lookup key = none) :
    (optional key value a).Reads members a where
  read type size index := by simp only [optional, Source.get?, hkey]
  checks k check hcheck j' hj' := by
    obtain ⟨rfl, rfl⟩ := Prod.mk.inj (List.mem_singleton.1 hcheck)
    rw [hkey] at hj'
    cases hj'

theorem Reads.map {record : Record α} (h : record.Reads members a) (f : α → β) :
    (f <$> record).Reads members (f a) where
  read type size index := congrArg (Except.map f) (h.read type size index)
  checks := h.checks

theorem Reads.seq {f : Record (α → β)} {x : Record α} {g : α → β}
    (hf : f.Reads members g) (hx : x.Reads members a) : (f <*> x).Reads members (g a) where
  read type size index := by
    show (do
      let g ← f.read type size index (.named members)
      let a ← x.read type size (index + f.checks.length) (.named members)
      return g a) = Except.ok (g a)
    rw [hf.read, hx.read]
    rfl
  checks key check hcheck :=
    (List.mem_append.1 hcheck).elim (hf.checks key check) (hx.checks key check)

end

theorem checkMembers_eq_ok_iff {checks : List (String × (Json → Except Fault Unit))}
    {members : List (String × Json)} :
    checkMembers checks members = .ok () ↔
      ∀ key j, (key, j) ∈ members → ∀ check, checks.lookup key = some check → check j = .ok () := by
  induction members with
  | nil => simp [checkMembers]
  | cons member members ih =>
      obtain ⟨key, j⟩ := member
      have hsplit {p : String → Json → Prop} : (∀ k v, (k, v) ∈ (key, j) :: members → p k v) ↔
          p key j ∧ ∀ k v, (k, v) ∈ members → p k v := by
        simpa only [Prod.forall] using List.forall_mem_cons (p := fun m : String × Json => p m.1 m.2)
      rw [hsplit, ← ih, checkMembers]
      cases checks.lookup key with
      | none => simp
      | some check => cases hcheck : check j <;> simp [bind, Except.bind, hcheck]

theorem checkMembers_eq_ok_or_error {checks : List (String × (Json → Except Fault Unit))}
    {members : List (String × Json)} {fault : Fault}
    (h : ∀ key j, (key, j) ∈ members → ∀ check, checks.lookup key = some check →
      check j = .ok () ∨ check j = .error fault) :
    checkMembers checks members = .ok () ∨ checkMembers checks members = .error fault := by
  induction members with
  | nil => exact .inl rfl
  | cons member members ih =>
      obtain ⟨key, j⟩ := member
      have hrest := ih fun k v hmem => h k v (List.mem_cons_of_mem _ hmem)
      rw [checkMembers]
      cases hcheck : checks.lookup key with
      | none => exact hrest
      | some check =>
          rcases h key j List.mem_cons_self check hcheck with hok | herror
          · simp only [hok]
            exact hrest
          · simp only [herror]
            exact .inr rfl

theorem Reads.decode {record : Record α} {members : List (String × Json)} {a : α}
    (h : record.Reads members a) (hkeys : (members.map Prod.fst).Nodup) (type : String) :
    record.decode type (.object members) = .ok a := by
  -- a member that is tested is what `lookup` finds, as no other has its key
  have hchecks : checkMembers record.checks members = .ok () := by
    rw [checkMembers_eq_ok_iff]
    intro key j hmem check hcheck
    have hmem' : (key, check) ∈ record.checks := by
      obtain ⟨before, after, heq, -⟩ := List.lookup_eq_some_iff.1 hcheck
      rw [heq]
      exact List.mem_append_right _ List.mem_cons_self
    exact h.checks key check hmem' j ((lookup_eq_some_iff_mem hkeys).2 hmem)
  rw [Record.decode, hchecks]
  exact h.read _ _ _

/-! ## Records in any order of their members -/

/-- The record reads the value from these members, and no test of them fails. -/
structure Recovers (record : Record α) (members : List (String × Json)) (a : α) : Prop where
  read : ∀ ms, SameMembers members ms → ∀ type size index,
    record.read type size index (.named ms) = .ok a
  checks : ∀ ms, SameMembers members ms → ∀ key check, (key, check) ∈ record.checks →
    ∀ j, ms.lookup key = some j → check j = .ok ()

theorem recovers_iff {record : Record α} {members : List (String × Json)} {a : α} :
    record.Recovers members a ↔ ∀ ms, SameMembers members ms → record.Reads ms a :=
  ⟨fun h ms hsame => ⟨h.read ms hsame, h.checks ms hsame⟩,
    fun h => ⟨fun ms hsame => (h ms hsame).read, fun ms hsame => (h ms hsame).checks⟩⟩

section
variable {members : List (String × Json)} {key s : String} {value : Decoder α} {j : Json} {a : α}

theorem recovers_required (hkey : members.lookup key = some j) (h : value.Recovers j a) :
    (required key value).Recovers members a := by
  refine recovers_iff.2 fun ms hsame => ?_
  obtain ⟨j', hj', hvalue⟩ := hsame.lookup_eq_some hkey
  exact reads_required hj' (h j' hvalue)

theorem recovers_optional (default : α) (hkey : members.lookup key = some j)
    (h : value.Recovers j a) : (optional key value default).Recovers members a := by
  refine recovers_iff.2 fun ms hsame => ?_
  obtain ⟨j', hj', hvalue⟩ := hsame.lookup_eq_some hkey
  exact reads_optional default hj' (h j' hvalue)

theorem recovers_optional_of_absent (hkey : members.lookup key = none) :
    (optional key value a).Recovers members a :=
  recovers_iff.2 fun _ hsame => reads_optional_of_absent (hsame.lookup_eq_none hkey)

theorem recovers_text (hkey : members.lookup key = some (.string s)) :
    (required key .text).Recovers members s :=
  recovers_required hkey (Decoder.recovers_text s)

/-- A field that is written after all others, and not where it has its default. -/
theorem recovers_optional_of_omitted [DecidableEq α] {toJson : α → Json} {default : α}
    (hkey : members.lookup key = none) (h : value.Recovers (toJson a) a) :
    (optional key value default).Recovers
      (members ++ if a = default then [] else [(key, toJson a)]) a := by
  split
  · next heq =>
      subst heq
      rw [List.append_nil]
      exact recovers_optional_of_absent hkey
  · refine recovers_optional default ?_ h
    rw [List.lookup_append, hkey, Option.none_or, List.lookup_cons_self]

theorem Recovers.map {record : Record α} (h : record.Recovers members a) (f : α → β) :
    (f <$> record).Recovers members (f a) :=
  recovers_iff.2 fun ms hsame => (recovers_iff.1 h ms hsame).map f

theorem Recovers.seq {f : Record (α → β)} {x : Record α} {g : α → β}
    (hf : f.Recovers members g) (hx : x.Recovers members a) :
    (f <*> x).Recovers members (g a) :=
  recovers_iff.2 fun ms hsame => (recovers_iff.1 hf ms hsame).seq (recovers_iff.1 hx ms hsame)

end

/-- An object with these members, in whatever order, is read as the value of the record. -/
theorem Recovers.decode {record : Record α} {members : List (String × Json)} {a : α}
    (h : record.Recovers members a) (hkeys : (members.map Prod.fst).Nodup) (type : String) :
    (record.decode type).Recovers (.object members) a := by
  intro j hj
  obtain ⟨ms, rfl, hsame, hms⟩ := hj.object_inv hkeys
  exact (recovers_iff.1 h ms hsame).decode hms type

end Record

end Changesets.Json
