import Mathlib.Data.List.Fold
import Mathlib.Data.List.MinMax
import ExceptionFlow.Hierarchy.Depth
import ExceptionFlow.Proofs.Subtyping

set_option autoImplicit false

/-! # Depth without circles

The depth of a class is found by following its supertypes upwards and keeping in mind which classes
the way has passed. Without circles there is nothing to keep in mind: the way never comes back, and
the depth is one more than the greatest depth of a direct supertype (`Registry.Acyclic.depth_eq`).
Every class is then deeper than its supertypes. -/

namespace ExceptionFlow

open Relation (TransGen ReflTransGen)

namespace Registry

variable (r : Registry)

/-- The way up from a name is free: it meets no known class whose key is not. -/
def FreeAbove (free : List String) (a : ClassName) : Prop :=
  ∀ k d, ReflTransGen r.Extends a.key k → r.classes.get? k = some d → k ∈ free

variable {r}

theorem freeAbove_declared (a : ClassName) :
    r.FreeAbove (r.hierarchy.declared.map fun d => d.name.key) a := by
  intro k d _ hd
  have hkey : d.key = k := Catalog.key_of_get? hd
  exact List.mem_map.2 ⟨d, Catalog.mem_of_get? hd, hkey⟩

/-- Without circles, the way up from a supertype does not come back to the class. -/
theorem FreeAbove.supertype (hacyclic : r.Acyclic) {free : List String} {a parent : ClassName}
    (h : r.FreeAbove free a) (hext : r.Extends a.key parent.key) :
    r.FreeAbove (Hierarchy.without free a.key) parent := by
  intro k d hpath hd
  refine Hierarchy.mem_without.2 ⟨h k d (.head hext hpath) hd, ?_⟩
  rintro rfl
  exact hacyclic _ (.head' hext hpath)

/-- As long as the way up is free, it does not matter what else is. -/
theorem Acyclic.chainAbove_congr (hacyclic : r.Acyclic) {free other : List String} {a : ClassName}
    (h : r.FreeAbove free a) (hother : r.FreeAbove other a) :
    r.hierarchy.chainAbove free a = r.hierarchy.chainAbove other a := by
  fun_induction Hierarchy.chainAbove r.hierarchy free a generalizing other with
  | case1 free a hnone => rw [Hierarchy.chainAbove, hnone]
  | case2 free a d hd hmem _ ih =>
    have hkey : d.name.key = a.key := key_of_find? hd
    have hfree : d.name.key ∈ other := hkey ▸ hother a.key d .refl hd
    rw [Hierarchy.chainAbove, hd]
    simp only [dif_pos hfree]
    congr 1
    refine List.map_congr_left ?_
    intro parent hparent
    have hext : r.Extends a.key parent.key := ⟨d, hd, parent, hparent, rfl⟩
    rw [hkey] at ih ⊢
    rw [ih parent (h.supertype hacyclic hext) (hother.supertype hacyclic hext)]
  | case3 free a d hd hmem =>
    rw [key_of_find? hd] at hmem
    exact absurd (h a.key d .refl hd) hmem

/-- **The depth of a class is one more than the greatest depth of its supertypes.** -/
theorem Acyclic.depth_eq (hacyclic : r.Acyclic) (a : ClassName) :
    r.hierarchy.depth a
      = ((r.hierarchy.supertypesOf a).map fun parent => 1 + r.hierarchy.depth parent).foldl
          max 0 := by
  rw [Hierarchy.depth, Hierarchy.chainAbove, Hierarchy.supertypesOf]
  cases hd : r.hierarchy.find? a with
  | none => rfl
  | some d =>
    have hkey : d.name.key = a.key := key_of_find? hd
    have hfree := freeAbove_declared (r := r) a
    have hmem : d.name.key ∈ r.hierarchy.declared.map fun d => d.name.key :=
      hkey ▸ hfree a.key d .refl hd
    simp only [dif_pos hmem, Option.map_some, Option.getD_some]
    congr 1
    refine List.map_congr_left ?_
    intro parent hparent
    have hext : r.Extends a.key parent.key := ⟨d, hd, parent, hparent, rfl⟩
    rw [hkey, Hierarchy.depth,
      hacyclic.chainAbove_congr (hfree.supertype hacyclic hext) (freeAbove_declared parent)]

/-- The depth of a class depends on its key alone. -/
theorem depth_congr {a b : ClassName} (h : a.key = b.key) :
    r.hierarchy.depth a = r.hierarchy.depth b := by
  rw [Hierarchy.depth, Hierarchy.depth, Hierarchy.chainAbove, Hierarchy.chainAbove, find?_congr h]

theorem Acyclic.depth_lt_of_extends (hacyclic : r.Acyclic) {a b : ClassName}
    (h : r.Extends a.key b.key) : r.hierarchy.depth b < r.hierarchy.depth a := by
  obtain ⟨parent, hparent, hkey⟩ := extends_iff.1 h
  have hmem : 1 + r.hierarchy.depth parent
      ∈ (r.hierarchy.supertypesOf a).map fun parent => 1 + r.hierarchy.depth parent :=
    List.mem_map_of_mem hparent
  have hle := List.le_max_of_le' 0 hmem le_rfl
  rw [hacyclic.depth_eq a, List.foldl_eq_foldr, ← depth_congr hkey]
  omega

/-- Every class is deeper than each class above it. -/
theorem Acyclic.depth_lt (hacyclic : r.Acyclic) {a b : ClassName}
    (h : TransGen r.Extends a.key b.key) : r.hierarchy.depth b < r.hierarchy.depth a := by
  generalize hkey : b.key = above at h
  induction h generalizing b with
  | single hext =>
    rw [← hkey] at hext
    exact hacyclic.depth_lt_of_extends hext
  | @tail k above _ hext ih =>
    -- a key with a supertype is that of a class, whose name takes the place of the key
    obtain ⟨d, hd, -⟩ := id hext
    have hk : d.key = k := Catalog.key_of_get? hd
    change d.name.key = k at hk
    rw [← hkey, ← hk] at hext
    exact (hacyclic.depth_lt_of_extends hext).trans (ih hk)

end Registry

end ExceptionFlow
