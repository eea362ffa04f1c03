import Mathlib.Data.Finset.Insert
import Mathlib.Order.Bounds.Defs
import ExceptionFlow.Proofs.BreadthFirst
import ExceptionFlow.Proofs.Depth
import ExceptionFlow.Proofs.SubtypeOrder
import ExceptionFlow.Proofs.SupertypesFirst

set_option autoImplicit false

/-! # The longest chain of supertypes

The depth of a class is found by a recursion over its supertypes that shares one set of keys between
all its calls: a call puts the key of its class into the set, calls itself on the supertypes one
after the other, and takes the key out again. `Hierarchy.Walks` is that recursion, without any bound
on how deep it goes. It ends on every hierarchy, also where classes extend each other in a circle,
and leaves the set as it was (`Hierarchy.walks_iff`). So what a call finds does not depend on the
calls before it, and the set may as well be passed down by value.

Without circles, what is found is the length of the longest chain of supertypes
(`Registry.Acyclic.isGreatest_depth`): no chain is longer, since every step up is a step to a lesser
depth, and one is as long, since some supertype is only one less deep. -/

namespace ExceptionFlow

/-! ## The recursion -/

namespace Hierarchy

section Walks

variable (H : Hierarchy)

mutual

/-- A call of the recursion, given the keys of the classes that are being visited: the height that
    it finds above a name, and the keys that are left in the set. -/
inductive Walks : Finset String → ClassName → Nat → Finset String → Prop where
  | unknown {visiting : Finset String} {name : ClassName} :
      H.find? name = none → Walks visiting name 0 visiting
  | returns {visiting : Finset String} {name : ClassName} {d : ClassDecl} :
      H.find? name = some d → d.name.key ∈ visiting → Walks visiting name 0 visiting
  | enters {visiting left : Finset String} {name : ClassName} {d : ClassDecl}
      {heights : List Nat} :
      H.find? name = some d → d.name.key ∉ visiting →
        WalksEach (insert d.name.key visiting) d.supertypes heights left →
          Walks visiting name (heights.foldl max 0) (left.erase d.name.key)

/-- The calls for the supertypes of a class, each from the keys that the one before has left. The
    step up to a supertype counts, whether it is known or not. -/
inductive WalksEach : Finset String → List ClassName → List Nat → Finset String → Prop where
  | done {visiting : Finset String} : WalksEach visiting [] [] visiting
  | next {visiting between left : Finset String} {parent : ClassName} {rest : List ClassName}
      {height : Nat} {heights : List Nat} :
      Walks visiting parent height between → WalksEach between rest heights left →
        WalksEach visiting (parent :: rest) ((1 + height) :: heights) left

end

end Walks

variable {H : Hierarchy}

/-- If the call for each name has one outcome and restores the set, so do the calls in turn. -/
theorem walksEach_iff {visiting : Finset String} {heightOf : ClassName → Nat}
    {parents : List ClassName}
    (h : ∀ parent ∈ parents, ∀ height left,
      H.Walks visiting parent height left ↔ height = heightOf parent ∧ left = visiting)
    {heights : List Nat} {left : Finset String} :
    H.WalksEach visiting parents heights left
      ↔ heights = parents.map (fun parent => 1 + heightOf parent) ∧ left = visiting := by
  induction parents generalizing heights with
  | nil =>
    constructor
    · intro hwalks
      cases hwalks
      exact ⟨rfl, rfl⟩
    · rintro ⟨rfl, rfl⟩
      exact .done
  | cons parent rest ih =>
    have hfirst := h parent List.mem_cons_self
    have hrest : ∀ other ∈ rest, ∀ height left,
        H.Walks visiting other height left ↔ height = heightOf other ∧ left = visiting :=
      fun other hother => h other (List.mem_cons_of_mem _ hother)
    constructor
    · intro hwalks
      cases hwalks with
      | next hparent hothers =>
        obtain ⟨rfl, rfl⟩ := (hfirst _ _).1 hparent
        obtain ⟨rfl, rfl⟩ := (ih hrest).1 hothers
        exact ⟨rfl, rfl⟩
    · rintro ⟨rfl, rfl⟩
      exact .next ((hfirst _ _).2 ⟨rfl, rfl⟩) ((ih hrest).2 ⟨rfl, rfl⟩)

/-- **The recursion ends, finds the longest free chain, and restores its set.** The free keys are
    those of the classes that are not being visited. -/
theorem walks_iff {free : List String} {name : ClassName} {visiting : Finset String}
    (hfree : ∀ d ∈ H.declared, d.name.key ∈ free ↔ d.name.key ∉ visiting) {height : Nat}
    {left : Finset String} :
    H.Walks visiting name height left ↔ height = H.chainAbove free name ∧ left = visiting := by
  -- along the shrinking list of free keys, which the set only mirrors
  fun_induction H.chainAbove free name generalizing visiting height left with
  | case1 free name hnone =>
    constructor
    · intro hwalks
      cases hwalks with
      | unknown _ => exact ⟨rfl, rfl⟩
      | returns hd _ => cases hnone.symm.trans hd
      | enters hd _ _ => cases hnone.symm.trans hd
    · rintro ⟨rfl, rfl⟩
      exact .unknown hnone
  | case2 free name d hd hmem _ ih =>
    have hnot : d.name.key ∉ visiting := (hfree d (H.mem_declared hd)).1 hmem
    have hinner : ∀ e ∈ H.declared,
        e.name.key ∈ without free d.name.key ↔ e.name.key ∉ insert d.name.key visiting := by
      intro e he
      simp [mem_without, hfree e he, and_comm]
    have hparent : ∀ parent ∈ d.supertypes, ∀ height left,
        H.Walks (insert d.name.key visiting) parent height left
          ↔ height = H.chainAbove (without free d.name.key) parent ∧
            left = insert d.name.key visiting := fun parent _ _ _ => ih parent hinner
    constructor
    · intro hwalks
      cases hwalks with
      | unknown hnone => cases hnone.symm.trans hd
      | returns hfound hback =>
        obtain rfl := Option.some.inj (hd.symm.trans hfound)
        exact absurd hback hnot
      | enters hfound _ hparents =>
        obtain rfl := Option.some.inj (hd.symm.trans hfound)
        obtain ⟨rfl, rfl⟩ := (walksEach_iff hparent).1 hparents
        exact ⟨rfl, Finset.erase_insert hnot⟩
    · rintro ⟨rfl, rfl⟩
      have hwalks := Walks.enters hd hnot ((walksEach_iff hparent).2 ⟨rfl, rfl⟩)
      rwa [Finset.erase_insert hnot] at hwalks
  | case3 free name d hd hmem =>
    have hback : d.name.key ∈ visiting :=
      not_not.1 fun hnot => hmem ((hfree d (H.mem_declared hd)).2 hnot)
    constructor
    · intro hwalks
      cases hwalks with
      | unknown _ => exact ⟨rfl, rfl⟩
      | returns _ _ => exact ⟨rfl, rfl⟩
      | enters hfound hnot _ =>
        obtain rfl := Option.some.inj (hd.symm.trans hfound)
        exact absurd hback hnot
    · rintro ⟨rfl, rfl⟩
      exact .returns hd hback

/-- From whatever set it starts, the recursion has one outcome and restores the set. -/
theorem exists_walks_iff (H : Hierarchy) (visiting : Finset String) (name : ClassName) :
    ∃ found, ∀ height left,
      H.Walks visiting name height left ↔ height = found ∧ left = visiting := by
  refine ⟨H.chainAbove ((H.declared.map (·.name.key)).filter (· ∉ visiting)) name, ?_⟩
  intro height left
  refine walks_iff ?_
  intro d hd
  simp only [List.mem_filter, decide_eq_true_eq, and_iff_right_iff_imp]
  exact fun _ => List.mem_map_of_mem hd

/-- The depth is what the recursion finds from the empty set. -/
theorem walks_empty_iff {name : ClassName} {height : Nat} {left : Finset String} :
    H.Walks ∅ name height left ↔ height = H.depth name ∧ left = ∅ := by
  refine walks_iff ?_
  intro d hd
  simpa using ⟨d, hd, rfl⟩

/-- Every step of a chain uses up the key of the class that it starts from. -/
theorem chainAbove_le_length (free : List String) (name : ClassName) :
    H.chainAbove free name ≤ free.length := by
  fun_induction H.chainAbove free name with
  | case1 free name _ => exact Nat.zero_le _
  | case2 free name d _ hmem hlt ih =>
    rw [List.foldl_eq_foldr]
    refine List.max_le_of_forall_le _ _ ?_
    intro n hn
    obtain ⟨parent, -, rfl⟩ := List.mem_map.1 hn
    have hle := ih parent
    omega
  | case3 free name _ _ _ => exact Nat.zero_le _

end Hierarchy

namespace Registry

variable {r : Registry}

theorem depth_le_size (r : Registry) (a : ClassName) : r.hierarchy.depth a ≤ r.classes.size := by
  calc r.hierarchy.depth a
      ≤ (r.hierarchy.declared.map (·.name.key)).length := Hierarchy.chainAbove_le_length _ _
    _ = r.classes.size := by
      rw [List.length_map]
      rfl

/-- Only a class without supertypes, or a name that is not known, has depth zero. -/
theorem depth_eq_zero_iff {a : ClassName} :
    r.hierarchy.depth a = 0 ↔ r.hierarchy.supertypesOf a = [] := by
  rw [Hierarchy.depth, Hierarchy.chainAbove, Hierarchy.supertypesOf]
  cases hd : r.hierarchy.find? a with
  | none => simp
  | some d =>
    have hmem : d.name.key ∈ r.hierarchy.declared.map (·.name.key) :=
      List.mem_map_of_mem (r.hierarchy.mem_declared hd)
    simp only [dif_pos hmem, Option.map_some, Option.getD_some]
    cases d.supertypes with
    | nil => simp
    | cons parent rest =>
      rw [List.map_cons, List.foldl_eq_foldr, List.foldr_cons]
      simp only [reduceCtorEq, iff_false]
      omega

/-! ## Chains of supertypes -/

theorem Climbs.head {start next above : String} {n : Nat} (hext : r.Extends start next)
    (h : r.Climbs next n above) : r.Climbs start (n + 1) above := by
  induction h with
  | here => exact .up .here hext
  | up _ habove ih => exact .up ih habove

/-- Some supertype is only one less deep. -/
theorem Acyclic.exists_deepest_supertype (hacyclic : r.Acyclic) {a : ClassName}
    (h : r.hierarchy.supertypesOf a ≠ []) :
    ∃ parent ∈ r.hierarchy.supertypesOf a,
      r.hierarchy.depth a = r.hierarchy.depth parent + 1 := by
  have hdepth := hacyclic.depth_eq a
  rw [List.foldl_eq_foldr] at hdepth
  have hgreatest := List.foldr_max_of_ne_nil (mt List.map_eq_nil_iff.1 h)
    (l := (r.hierarchy.supertypesOf a).map fun parent => 1 + r.hierarchy.depth parent)
  obtain ⟨parent, hparent, heq⟩ := List.mem_map.1 (List.maximum_mem hgreatest.symm)
  refine ⟨parent, hparent, ?_⟩
  rw [hdepth, Nat.add_comm]
  exact heq.symm

/-- There is a chain as long as the class is deep. -/
theorem Acyclic.exists_climbs_depth (hacyclic : r.Acyclic) (a : ClassName) :
    ∃ k, r.Climbs a.key (r.hierarchy.depth a) k := by
  generalize hn : r.hierarchy.depth a = n
  induction n generalizing a with
  | zero => exact ⟨a.key, .here⟩
  | succ n ih =>
    have hparents : r.hierarchy.supertypesOf a ≠ [] := by
      intro hnil
      rw [depth_eq_zero_iff.2 hnil] at hn
      cases hn
    obtain ⟨parent, hparent, hdepth⟩ := hacyclic.exists_deepest_supertype hparents
    obtain ⟨k, hk⟩ := ih parent (by omega)
    exact ⟨k, hk.head (extends_iff.2 ⟨parent, hparent, rfl⟩)⟩

/-- What lies `n` steps above a class is less deep by at least `n`. -/
theorem Acyclic.add_depth_le (hacyclic : r.Acyclic) {a b : ClassName} {n : Nat}
    (h : r.Climbs a.key n b.key) : n + r.hierarchy.depth b ≤ r.hierarchy.depth a := by
  generalize hkey : b.key = k at h
  induction h generalizing b with
  | here =>
    rw [depth_congr hkey]
    omega
  | @up n k above _ hext ih =>
    -- the key below the last step is that of a class, whose name takes its place
    obtain ⟨d, hd, -⟩ := id hext
    have hk : d.key = k := Catalog.key_of_get? hd
    change d.name.key = k at hk
    rw [← hkey, ← hk] at hext
    have hlt := hacyclic.depth_lt_of_extends hext
    have hle := ih hk
    omega

/-- **Without circles, the depth is the length of the longest chain of supertypes.** -/
theorem Acyclic.isGreatest_depth (hacyclic : r.Acyclic) (a : ClassName) :
    IsGreatest {n | ∃ k, r.Climbs a.key n k} (r.hierarchy.depth a) := by
  refine ⟨hacyclic.exists_climbs_depth a, ?_⟩
  rintro n ⟨k, hclimbs⟩
  have hname : ∃ b : ClassName, b.key = k := by
    cases hclimbs with
    | here => exact ⟨a, rfl⟩
    | up _ hext =>
      obtain ⟨-, -, parent, -, hkey⟩ := hext
      exact ⟨parent, hkey⟩
  obtain ⟨b, rfl⟩ := hname
  have hle := hacyclic.add_depth_le hclimbs
  omega

/-- In the sorted list of some names, a name never stands before or beside a strict supertype. -/
theorem Acyclic.sorted_behind_supertypes (hacyclic : r.Acyclic) {names : List ClassName} {i j : Nat}
    {a b : ClassName} (hi : (r.hierarchy.sortSupertypesFirst id names)[i]? = some a)
    (hj : (r.hierarchy.sortSupertypesFirst id names)[j]? = some b)
    (hsub : r.hierarchy.isSubclass a b = true) : j < i := by
  have hdepth := hacyclic.depth_lt (isSubclass_iff.1 hsub).2
  have hsorted := r.hierarchy.pairwise_sortSupertypesFirst id
    (List.pairwise_of_forall (l := names) fun _ _ => trivial)
  obtain ⟨hlti, rfl⟩ := List.getElem?_eq_some_iff.1 hi
  obtain ⟨hltj, rfl⟩ := List.getElem?_eq_some_iff.1 hj
  by_contra hle
  rcases Nat.lt_or_eq_of_le (Nat.le_of_not_lt hle) with hlt | rfl
  · have hprecede := (List.pairwise_iff_getElem.1 hsorted i j hlti hltj hlt).1
    rw [Hierarchy.mayPrecede_iff] at hprecede
    simp only [id_eq] at hprecede
    omega
  · omega

/-- **Depth is the longest chain, and sorts supertypes first.** In every registry, the recursion
    ends from whatever set of visited classes it starts, with one outcome, and restores the set;
    from the empty one it finds the depth. The depth is at most the number of classes, and zero just
    for roots and for names that are not known. If no class is above itself, it is the length of the
    longest chain of supertypes, in which a supertype that nobody declares counts as a step; strict
    subtypes are deeper; and the stable sort of any list of names places every name behind all its
    strict supertypes in the list. -/
theorem depth_longest_chain (r : Registry) :
    (∀ visiting a, ∃ found, ∀ height left,
      r.hierarchy.Walks visiting a height left ↔ height = found ∧ left = visiting) ∧
    (∀ a height left,
      r.hierarchy.Walks ∅ a height left ↔ height = r.hierarchy.depth a ∧ left = ∅) ∧
    (∀ a, r.hierarchy.depth a ≤ r.classes.size) ∧
    (∀ a, r.hierarchy.depth a = 0 ↔ r.hierarchy.supertypesOf a = []) ∧
    (r.Acyclic →
      (∀ a, IsGreatest {n | ∃ k, r.Climbs a.key n k} (r.hierarchy.depth a)) ∧
      (∀ a b, r.hierarchy.isSubclass a b = true → r.hierarchy.depth b < r.hierarchy.depth a) ∧
      ∀ names,
        (r.hierarchy.sortSupertypesFirst id names).Perm names ∧
        ∀ (i j : Nat) a b, (r.hierarchy.sortSupertypesFirst id names)[i]? = some a →
          (r.hierarchy.sortSupertypesFirst id names)[j]? = some b →
            r.hierarchy.isSubclass a b = true → j < i) := by
  refine ⟨r.hierarchy.exists_walks_iff, ?_, r.depth_le_size, ?_, ?_⟩
  · intro a height left
    exact Hierarchy.walks_empty_iff
  · intro a
    exact depth_eq_zero_iff
  · intro hacyclic
    refine ⟨hacyclic.isGreatest_depth, ?_, ?_⟩
    · intro a b hsub
      exact hacyclic.depth_lt (isSubclass_iff.1 hsub).2
    · intro names
      refine ⟨r.hierarchy.sortSupertypesFirst_perm id names, ?_⟩
      intro i j a b hi hj hsub
      exact hacyclic.sorted_behind_supertypes hi hj hsub

/-- In the diamond, the step to the name that nobody declares counts. In the circle, the recursion
    comes back to where it was, finds as much as there are classes, and leaves nothing behind. -/
theorem depth_longest_chain_diamond :
    diamond.Acyclic ∧
    IsGreatest {n | ∃ k, diamond.Climbs "stall" n k} 3 ∧
    diamond.hierarchy.depth ⟨"Throwable"⟩ = 0 ∧
    diamond.hierarchy.depth ⟨"Throwable"⟩ < diamond.hierarchy.depth ⟨"Retryable"⟩ ∧
    diamond.hierarchy.sortSupertypesFirst id
        [⟨"Stall"⟩, ⟨"Retryable"⟩, ⟨"THROWABLE"⟩, ⟨"Timeout"⟩, ⟨"throwable"⟩, ⟨"Fault"⟩]
      = [⟨"THROWABLE"⟩, ⟨"throwable"⟩, ⟨"Fault"⟩, ⟨"Retryable"⟩, ⟨"Timeout"⟩, ⟨"Stall"⟩] ∧
    circle.hierarchy.Walks ∅ ⟨"Timeout"⟩ 3 ∅ ∧
    circle.classes.size = 3 := by
  obtain ⟨-, -, -, hzero, hchains⟩ := depth_longest_chain diamond
  obtain ⟨hgreatest, hdeeper, -⟩ := hchains diamond_acyclic
  obtain ⟨-, hwalks, -⟩ := depth_longest_chain circle
  have hdepth : diamond.hierarchy.depth ⟨"Stall"⟩ = 3 := by
    decide +kernel
  refine ⟨diamond_acyclic, hdepth ▸ hgreatest ⟨"Stall"⟩, (hzero _).2 rfl,
    hdeeper _ _ (by decide +kernel), ?_, (hwalks _ _ _).2 ⟨?_, rfl⟩, by decide +kernel⟩
  · rw [Hierarchy.sortSupertypesFirst_eq_foldr]
    decide +kernel
  · decide +kernel

end Registry

end ExceptionFlow
