import Changesets.Text.Order
import Mathlib.Data.List.Nodup
import Mathlib.Data.List.Perm.Basic

/-!
The order of texts by their bytes. It is a strict total order, so that texts without repetitions have
one list that is in this order.
-/
namespace Changesets.Text

theorem bytes_injective : Function.Injective bytes := by
  intro a b h
  exact String.toByteArray_inj.1 (ByteArray.ext (Array.toList_inj.1 h))

@[simp] theorem precedes_iff {a b : String} : precedes a b ↔ bytes a < bytes b := by
  simp [precedes]

theorem bytes_lt_or_lt_of_ne {a b : String} (h : a ≠ b) : bytes a < bytes b ∨ bytes b < bytes a := by
  by_contra hnone
  obtain ⟨hab, hba⟩ := not_or.1 hnone
  exact h (bytes_injective (List.le_antisymm (List.not_lt.1 hba) (List.not_lt.1 hab)))

/-- Every text comes before all that follow it. -/
def Increasing (texts : List String) : Prop :=
  texts.Pairwise fun a b => bytes a < bytes b

instance : DecidablePred Increasing := fun texts =>
  inferInstanceAs (Decidable (texts.Pairwise fun a b => bytes a < bytes b))

theorem increasing_cons {text : String} {texts : List String} :
    Increasing (text :: texts) ↔ (∀ other ∈ texts, bytes text < bytes other) ∧ Increasing texts :=
  List.pairwise_cons

theorem increasing_map {α : Type} {f : α → String} {xs : List α} :
    Increasing (xs.map f) ↔ xs.Pairwise fun a b => bytes (f a) < bytes (f b) :=
  List.pairwise_map

namespace Increasing

variable {texts others : List String}

theorem nodup (h : Increasing texts) : texts.Nodup := by
  refine List.Pairwise.imp (fun {a b} hab => ?_) h
  intro heq
  exact List.lt_irrefl (bytes b) (heq ▸ hab)

/-- What is ordered by texts of its own is known by its members. -/
theorem eq_of_map {α : Type} {f : α → String} {xs ys : List α} (hxs : Increasing (xs.map f))
    (hys : Increasing (ys.map f)) (h : ∀ x, x ∈ xs ↔ x ∈ ys) : xs = ys := by
  have hperm : xs.Perm ys :=
    (List.perm_ext_iff_of_nodup (.of_map f hxs.nodup) (.of_map f hys.nodup)).2 h
  exact hperm.eq_of_pairwise (fun _ _ _ _ hab hba => absurd hba (List.lt_asymm hab))
    (increasing_map.1 hxs) (increasing_map.1 hys)

theorem eq_of_mem_iff (h : Increasing texts) (hothers : Increasing others)
    (hmem : ∀ text, text ∈ texts ↔ text ∈ others) : texts = others :=
  eq_of_map (f := id) (by rwa [List.map_id]) (by rwa [List.map_id]) hmem

end Increasing

end Changesets.Text
