import Mathlib.Data.String.Basic
import ExceptionFlow.Hierarchy.Depth
import ExceptionFlow.Proofs.Lists

set_option autoImplicit false

/-! # Sorting supertypes first

Items are sorted by the classes that they are about, and those that compare equal keep their order.
Three facts about this are used again and again: leaving some items out before the sort or after it
is the same (`sortSupertypesFirst_filter`), so is renaming them (`map_sortSupertypesFirst`), and
which of two items comes first can be read off them (`pairwise_sortSupertypesFirst`). None needs
anything of the hierarchy. It may have circles, where depth says nothing about subtypes; the
comparison is a total preorder all the same. -/

namespace ExceptionFlow

namespace Hierarchy

variable (H : Hierarchy) {α β : Type}

/-! ## The comparison -/

theorem compareSupertypesFirst_eq :
    H.compareSupertypesFirst = compareLex (compareOn H.depth) (compareOn ClassName.key) := rfl

/-- Whether a class may stand before another. -/
def mayPrecede (a b : ClassName) : Bool := H.compareSupertypesFirst a b != .gt

theorem mayPrecede_eq_isLE (a b : ClassName) :
    H.mayPrecede a b = (H.compareSupertypesFirst a b).isLE := by
  rw [mayPrecede]
  cases H.compareSupertypesFirst a b <;> rfl

theorem mayPrecede_trans {a b c : ClassName} (hab : H.mayPrecede a b = true)
    (hbc : H.mayPrecede b c = true) : H.mayPrecede a c = true := by
  rw [mayPrecede_eq_isLE, compareSupertypesFirst_eq] at hab hbc ⊢
  exact Std.TransCmp.isLE_trans hab hbc

theorem mayPrecede_total (a b : ClassName) : (H.mayPrecede a b || H.mayPrecede b a) = true := by
  have hswap : H.compareSupertypesFirst b a = (H.compareSupertypesFirst a b).swap := by
    rw [compareSupertypesFirst_eq]
    exact Std.OrientedCmp.eq_swap
  rw [mayPrecede, mayPrecede, hswap]
  cases H.compareSupertypesFirst a b <;> rfl

/-- The lesser depth comes first, and at equal depth the lesser key. -/
theorem mayPrecede_iff {a b : ClassName} :
    H.mayPrecede a b = true
      ↔ H.depth a < H.depth b ∨ H.depth a = H.depth b ∧ a.key ≤ b.key := by
  rw [mayPrecede_eq_isLE, compareSupertypesFirst, Ordering.isLE_then_iff_or]
  simp only [compare_lt_iff_lt, compare_eq_iff_eq, ← Ordering.ne_gt_iff_isLE, compare_le_iff_le]

/-! ## The sort -/

theorem sortSupertypesFirst_perm (about : α → ClassName) (items : List α) :
    (H.sortSupertypesFirst about items).Perm items :=
  List.mergeSort_perm _ _

/-- The sort in a form that can be evaluated. -/
theorem sortSupertypesFirst_eq_foldr (about : α → ClassName) (items : List α) :
    H.sortSupertypesFirst about items
      = items.foldr (fun a sorted =>
          sorted.filter (fun b => !H.mayPrecede (about a) (about b)) ++
            a :: sorted.filter fun b => H.mayPrecede (about a) (about b)) [] := by
  refine mergeSort_eq_foldr ?_ ?_ items
  · intro a b c
    exact H.mayPrecede_trans
  · intro a b
    exact H.mayPrecede_total (about a) (about b)

/-- Items may be left out before the sort or after it. -/
theorem sortSupertypesFirst_filter (about : α → ClassName) (keep : α → Bool) (items : List α) :
    H.sortSupertypesFirst about (items.filter keep)
      = (H.sortSupertypesFirst about items).filter keep := by
  refine mergeSort_filter ?_ ?_ keep items
  · intro a b c
    exact H.mayPrecede_trans
  · intro a b
    exact H.mayPrecede_total (about a) (about b)

/-- The sort puts items in order and keeps the order of those that compare equal. -/
theorem pairwise_sortSupertypesFirst (about : α → ClassName) {before : α → α → Prop}
    {items : List α} (h : items.Pairwise before) :
    (H.sortSupertypesFirst about items).Pairwise fun a b =>
      H.mayPrecede (about a) (about b) = true ∧
        (H.mayPrecede (about b) (about a) = true → before a b) := by
  refine pairwise_mergeSort_stable ?_ ?_ h
  · intro a b c
    exact H.mayPrecede_trans
  · intro a b
    exact H.mayPrecede_total (about a) (about b)

/-- Items may be replaced before the sort or after it, if they stay about the same classes. -/
theorem map_sortSupertypesFirst (about : β → ClassName) (f : α → β) (items : List α) :
    (H.sortSupertypesFirst (fun a => about (f a)) items).map f
      = H.sortSupertypesFirst about (items.map f) :=
  List.map_mergeSort fun _ _ _ _ => rfl

end Hierarchy

end ExceptionFlow
