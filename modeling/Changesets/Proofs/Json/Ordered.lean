import Changesets.Proofs.Json.Record
import Changesets.Proofs.Text.Order
import Mathlib.Data.List.Induction

/-!
Values whose objects have their members in the order of the keys. Of all values that differ in the
order of members only, one is so. Members that are set one by one make it, whatever their order was.
-/
namespace Changesets.Json

open Text (Increasing)

/-- The members of every object stand in the order of their keys, each key once. -/
inductive Ordered : Json → Prop
  | null : Ordered .null
  | bool (b : Bool) : Ordered (.bool b)
  | int (i : Int) : Ordered (.int i)
  | float (x : Float) : Ordered (.float x)
  | string (s : String) : Ordered (.string s)
  | array {items : List Json} : (∀ item ∈ items, Ordered item) → Ordered (.array items)
  | object {members : List (String × Json)} : Increasing (members.map Prod.fst) →
      (∀ member ∈ members, Ordered member.2) → Ordered (.object members)

variable {xs ys members : List (String × Json)} {key : String} {value : Json}

theorem SameMembers.mem_iff (h : SameMembers xs ys) (hxs : (xs.map Prod.fst).Nodup)
    (hys : (ys.map Prod.fst).Nodup)
    (heq : ∀ x ∈ xs, ∀ y ∈ ys, Reorders x.2 y.2 → x.2 = y.2) (member : String × Json) :
    member ∈ xs ↔ member ∈ ys := by
  obtain ⟨key, value⟩ := member
  -- both values of a key, of which either one may be given
  have hpair {x : Json} (hx : (key, x) ∈ xs) : ys.lookup key = some x := by
    obtain ⟨y, hy, hreorders⟩ := h.lookup_eq_some ((lookup_eq_some_iff_mem hxs).2 hx)
    obtain rfl : x = y := heq _ hx (key, y) ((lookup_eq_some_iff_mem hys).1 hy) hreorders
    exact hy
  constructor
  · intro hmem
    exact (lookup_eq_some_iff_mem hys).1 (hpair hmem)
  · intro hmem
    have hy := (lookup_eq_some_iff_mem hys).2 hmem
    cases hx : xs.lookup key with
    | none =>
        rw [h.lookup_eq_none hx] at hy
        cases hy
    | some x =>
        have hmem' := (lookup_eq_some_iff_mem hxs).1 hx
        obtain rfl := Option.some.inj ((hpair hmem').symm.trans hy)
        exact hmem'

theorem eq_of_forall₂ {as bs : List Json} (h : List.Forall₂ Reorders as bs)
    (heq : ∀ a ∈ as, ∀ b ∈ bs, Reorders a b → a = b) : as = bs := by
  induction h with
  | nil => rfl
  | @cons a b as bs hfirst _ ih =>
      rw [heq a List.mem_cons_self b List.mem_cons_self hfirst]
      exact congrArg (b :: ·) (ih fun x hx y hy =>
        heq x (List.mem_cons_of_mem a hx) y (List.mem_cons_of_mem b hy))

theorem Ordered.eq_of_reorders {a b : Json} (ha : a.Ordered) (hb : b.Ordered)
    (h : Reorders a b) : a = b := by
  induction ha generalizing b with
  | null | bool | int | float | string =>
      cases h
      rfl
  | @array items _ ih =>
      cases h with
      | refl => rfl
      | array hitems =>
          cases hb with
          | array hothers =>
              exact congrArg Json.array
                (eq_of_forall₂ hitems fun x hx y hy => ih x hx (hothers y hy))
  | @object members hkeys _ ih =>
      obtain ⟨others, rfl, hsame, -⟩ := h.object_inv hkeys.nodup
      cases hb with
      | object hkeys' hothers =>
          exact congrArg Json.object (hkeys.eq_of_map hkeys'
            (hsame.mem_iff hkeys.nodup hkeys'.nodup fun x hx y hy => ih x hx (hothers y hy)))

/-! ## Members that are set one by one -/

theorem mem_keys_insertMember {text : String} :
    text ∈ (insertMember key value members).map Prod.fst ↔
      text = key ∨ text ∈ members.map Prod.fst := by
  induction members with
  | nil => simp [insertMember]
  | cons member members ih =>
      rw [insertMember]
      split_ifs with hkey
      · simp [hkey]
      · simp
      · rw [List.map_cons, List.mem_cons, ih, List.map_cons, List.mem_cons]
        exact or_left_comm

theorem increasing_insertMember (h : Increasing (members.map Prod.fst)) :
    Increasing ((insertMember key value members).map Prod.fst) := by
  induction members with
  | nil => exact List.pairwise_singleton _ _
  | cons member members ih =>
      obtain ⟨hfirst, hrest⟩ := Text.increasing_cons.1 h
      rw [insertMember]
      split_ifs with hkey hbefore
      · exact hkey ▸ h
      · rw [Text.precedes_iff] at hbefore
        refine Text.increasing_cons.2 ⟨?_, h⟩
        intro text htext
        rcases List.mem_cons.1 htext with rfl | htext
        · exact hbefore
        · exact List.lt_trans hbefore (hfirst text htext)
      · rw [Text.precedes_iff] at hbefore
        refine Text.increasing_cons.2 ⟨?_, ih hrest⟩
        intro text htext
        rcases mem_keys_insertMember.1 htext with rfl | htext
        · exact (Text.bytes_lt_or_lt_of_ne hkey).resolve_left hbefore
        · exact hfirst text htext

/-- Setting a member replaces the one with its key and keeps all others. -/
theorem mem_insertMember (h : Increasing (members.map Prod.fst)) {member : String × Json} :
    member ∈ insertMember key value members ↔
      member = (key, value) ∨ member ∈ members ∧ member.1 ≠ key := by
  induction members with
  | nil => simp [insertMember]
  | cons first members ih =>
      obtain ⟨hfirst, hrest⟩ := Text.increasing_cons.1 h
      have hafter (hmem : member ∈ members) : Text.bytes first.1 < Text.bytes member.1 :=
        hfirst _ (List.mem_map_of_mem hmem)
      rw [insertMember]
      split_ifs with hkey hbefore
      · have hne (hmem : member ∈ members) : member.1 ≠ key := by
          intro heq
          have hlt := hafter hmem
          rw [heq, hkey] at hlt
          exact List.lt_irrefl _ hlt
        grind
      · have hne (hmem : member ∈ members) : member.1 ≠ key := by
          intro heq
          exact List.lt_asymm (Text.precedes_iff.1 hbefore) (heq ▸ hafter hmem)
        grind
      · rw [List.mem_cons, ih hrest, List.mem_cons]
        grind

/-- The members that are there after setting these one by one, from none on. -/
def setMembers (members : List (String × Json)) : List (String × Json) :=
  members.foldl (fun ms (key, value) => insertMember key value ms) []

theorem setMembers_concat (members : List (String × Json)) (last : String × Json) :
    setMembers (members ++ [last]) = insertMember last.1 last.2 (setMembers members) := by
  rw [setMembers, List.foldl_append]
  rfl

theorem increasing_setMembers (members : List (String × Json)) :
    Increasing ((setMembers members).map Prod.fst) := by
  induction members using List.reverseRecOn with
  | nil => exact List.Pairwise.nil
  | append_singleton members last ih =>
      rw [setMembers_concat]
      exact increasing_insertMember ih

theorem mem_of_mem_setMembers {member : String × Json} (h : member ∈ setMembers members) :
    member ∈ members := by
  induction members using List.reverseRecOn with
  | nil => exact h
  | append_singleton members last ih =>
      rw [setMembers_concat, mem_insertMember (increasing_setMembers members)] at h
      rcases h with rfl | ⟨hmem, -⟩
      · exact List.mem_append_right _ (List.mem_singleton_self _)
      · exact List.mem_append_left _ (ih hmem)

/-- An object that is made of ordered values is ordered, whatever their keys are. -/
theorem ordered_ofMembers (h : ∀ member ∈ members, member.2.Ordered) :
    (ofMembers members).Ordered :=
  .object (increasing_setMembers members) fun member hmem =>
    h member (mem_of_mem_setMembers hmem)

theorem mem_setMembers (h : (members.map Prod.fst).Nodup) (member : String × Json) :
    member ∈ setMembers members ↔ member ∈ members := by
  induction members using List.reverseRecOn with
  | nil => exact Iff.rfl
  | append_singleton members last ih =>
      rw [List.map_append, List.nodup_append] at h
      obtain ⟨hmembers, -, hlast⟩ := h
      have hne (hmem : member ∈ members) : member.1 ≠ last.1 :=
        hlast _ (List.mem_map_of_mem hmem) _ (List.mem_singleton_self _)
      rw [setMembers_concat, mem_insertMember (increasing_setMembers members), ih hmembers,
        List.mem_append, List.mem_singleton]
      tauto

/-- Of the orders that the members of an object may have, the one by their keys is what setting them
one by one makes. -/
theorem Ordered.eq_ofMembers {j : Json} (hj : j.Ordered) (hkeys : (members.map Prod.fst).Nodup)
    (hvalues : ∀ member ∈ members, member.2.Ordered) (h : Reorders (.object members) j) :
    j = ofMembers members := by
  obtain ⟨others, rfl, hsame, -⟩ := h.object_inv hkeys
  cases hj with
  | object hkeys' hothers =>
      have hset := increasing_setMembers members
      refine congrArg Json.object (hkeys'.eq_of_map hset fun member => ?_)
      rw [← setMembers, mem_setMembers hkeys]
      exact (hsame.mem_iff hkeys hkeys'.nodup
        (fun x hx y hy => (hvalues x hx).eq_of_reorders (hothers y hy)) member).symm

end Changesets.Json
