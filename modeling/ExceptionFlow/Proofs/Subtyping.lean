import Mathlib.Logic.Relation
import ExceptionFlow.Hierarchy.Interception
import ExceptionFlow.Registry

set_option autoImplicit false

/-! # Subtyping in a registry

In a registry a class is its key: the declaration under a key has that key, so that two names denote
one class exactly if they have one key. Subtyping is then a matter of the keys alone.
`Registry.Extends` says that one key stands for a direct supertype of another, and
`isSameOrSubclass_iff` that the checker's question is whether one key is reached from the other.
This holds of every registry, also of one in which classes inherit from each other in a circle.

The search visits every key once and never comes back to the class that it started from.
`ReachedWithin` follows it while the keys that are left get fewer, and `mem_keys_ancestors` shows
that nothing is lost: a way that leads back to the start can be cut short there. -/

namespace ExceptionFlow

open Relation (TransGen ReflTransGen)

namespace Registry

variable (r : Registry)

/-- The class under one key names a direct supertype by the other. -/
def Extends (k above : String) : Prop :=
  ∃ d, r.classes.get? k = some d ∧ ∃ parent ∈ d.supertypes, parent.key = above

/-- No class is above itself. -/
def Acyclic : Prop := ∀ k, ¬ TransGen r.Extends k k

variable {r}

/-- A registry is acyclic if every class stands higher than its direct supertypes. -/
theorem acyclic_of_rank (rank : String → Nat)
    (h : ∀ d ∈ r.classes.items, ∀ parent ∈ d.supertypes, rank parent.key < rank d.key) :
    r.Acyclic := by
  have hstep {k above : String} (hext : r.Extends k above) : rank above < rank k := by
    obtain ⟨d, hd, parent, hparent, rfl⟩ := hext
    rw [← Catalog.key_of_get? hd]
    exact h d (Catalog.mem_of_get? hd) parent hparent
  have hchain {k above : String} (hpath : TransGen r.Extends k above) : rank above < rank k := by
    induction hpath with
    | single hext => exact hstep hext
    | tail _ hext ih => exact Nat.lt_trans (hstep hext) ih
  intro k hcycle
  exact Nat.lt_irrefl _ (hchain hcycle)

/-! ## A class is its key -/

theorem key_of_find? {a : ClassName} {d : ClassDecl} (h : r.hierarchy.find? a = some d) :
    d.name.key = a.key := by
  have hkey : d.key = a.key := Catalog.key_of_get? h
  exact hkey

theorem key_of_resolve? {a resolved : ClassName} (h : r.hierarchy.resolve? a = some resolved) :
    resolved.key = a.key := by
  obtain ⟨d, hd, rfl⟩ := Option.map_eq_some_iff.1 h
  exact key_of_find? hd

theorem key_normalizeName (a : ClassName) : (r.hierarchy.normalizeName a).key = a.key := by
  rw [Hierarchy.normalizeName]
  cases h : r.hierarchy.resolve? a with
  | none => rfl
  | some resolved => exact key_of_resolve? h

theorem find?_congr {a b : ClassName} (h : a.key = b.key) :
    r.hierarchy.find? a = r.hierarchy.find? b :=
  congrArg r.classes.get? h

/-- Two known classes are declared under one name exactly if they have one key. -/
theorem resolved_eq_iff {a b resolvedA resolvedB : ClassName}
    (ha : r.hierarchy.resolve? a = some resolvedA) (hb : r.hierarchy.resolve? b = some resolvedB) :
    resolvedA = resolvedB ↔ a.key = b.key := by
  constructor
  · rintro rfl
    rw [← key_of_resolve? ha, key_of_resolve? hb]
  · intro hkey
    rw [Hierarchy.resolve?, find?_congr hkey] at ha
    exact Option.some.inj (ha.symm.trans hb)

/-- Two names denote one class exactly if they have one key. -/
theorem isSameClass_iff {a b : ClassName} :
    r.hierarchy.isSameClass a b = true ↔ a.key = b.key := by
  rw [Hierarchy.isSameClass, Bool.or_eq_true, beq_iff_eq]
  constructor
  · rintro (rfl | h)
    · rfl
    · split at h
      · rename_i left right hleft hright
        rw [← key_of_find? hleft, ← key_of_find? hright, beq_iff_eq.1 h]
      · exact beq_iff_eq.1 h
  · intro h
    rw [find?_congr h]
    right
    split
    · rename_i left right hleft hright
      rw [hleft] at hright
      rw [Option.some.inj hright, beq_iff_eq]
    · exact beq_iff_eq.2 h

theorem extends_iff {a : ClassName} {k : String} :
    r.Extends a.key k ↔ ∃ parent ∈ r.hierarchy.supertypesOf a, parent.key = k := by
  show (∃ d, r.hierarchy.find? a = some d ∧ _) ↔ _
  rw [Hierarchy.supertypesOf]
  cases r.hierarchy.find? a with
  | none => simp
  | some d => simp

/-! ## The search for ancestors -/

variable (r) in
/-- The keys that are reached from some keys without ever leaving `fresh`. -/
inductive ReachedWithin (fresh start : List String) : String → Prop where
  | start {k : String} : k ∈ fresh → k ∈ start → ReachedWithin fresh start k
  | step {k above : String} :
      ReachedWithin fresh start k → above ∈ fresh → r.Extends k above →
        ReachedWithin fresh start above

namespace ReachedWithin

variable {fresh start : List String} {k : String}

theorem mem_fresh (h : r.ReachedWithin fresh start k) : k ∈ fresh := by
  cases h with
  | start hfresh _ => exact hfresh
  | step _ hfresh _ => exact hfresh

theorem mono {more : List String} (h : r.ReachedWithin fresh start k) (hsub : start ⊆ more) :
    r.ReachedWithin fresh more k := by
  induction h with
  | start hfresh hstart => exact .start hfresh (hsub hstart)
  | step _ hfresh hext ih => exact .step ih hfresh hext

/-- Nothing is reached from a key that is not fresh any more. -/
theorem of_stale {stale : String} (h : r.ReachedWithin fresh (stale :: start) k)
    (hstale : stale ∉ fresh) : r.ReachedWithin fresh start k := by
  induction h with
  | @start k hfresh hstart =>
    have hk : k ≠ stale := fun he => hstale (he ▸ hfresh)
    exact .start hfresh ((List.mem_cons.1 hstart).resolve_left hk)
  | step _ hfresh hext ih => exact .step ih hfresh hext

theorem not_nil : ¬ r.ReachedWithin fresh [] k := by
  intro h
  induction h with
  | start _ hstart => cases hstart
  | step _ _ _ ih => exact ih

/-- What is reached from the supertypes of a name that waits is reached by way of the name. -/
theorem of_expanded {next : ClassName} {queue : List ClassName} (hnext : next.key ∈ fresh)
    (h : r.ReachedWithin (Hierarchy.without fresh next.key)
      ((queue ++ r.hierarchy.supertypesOf next).map ClassName.key) k) :
    r.ReachedWithin fresh ((next :: queue).map ClassName.key) k := by
  induction h with
  | @start k hfresh hstart =>
    obtain ⟨name, hname, rfl⟩ := List.mem_map.1 hstart
    have hin := (Hierarchy.mem_without.1 hfresh).1
    rcases List.mem_append.1 hname with hwaits | hparent
    · exact .start hin (List.mem_map_of_mem (List.mem_cons_of_mem _ hwaits))
    · have hhead : r.ReachedWithin fresh ((next :: queue).map ClassName.key) next.key :=
        .start hnext (List.mem_map_of_mem List.mem_cons_self)
      exact .step hhead hin (extends_iff.2 ⟨name, hparent, rfl⟩)
  | step _ hfresh hext ih => exact .step ih (Hierarchy.mem_without.1 hfresh).1 hext

/-- A name that waits may be replaced by its supertypes: what is reached besides it is reached
    without it. -/
theorem expand {next : ClassName} {queue : List ClassName}
    (h : r.ReachedWithin fresh ((next :: queue).map ClassName.key) k) (hne : k ≠ next.key) :
    r.ReachedWithin (Hierarchy.without fresh next.key)
      ((queue ++ r.hierarchy.supertypesOf next).map ClassName.key) k := by
  induction h with
  | @start k hfresh hstart =>
    refine .start (Hierarchy.mem_without.2 ⟨hfresh, hne⟩) ?_
    rw [List.map_cons, List.mem_cons] at hstart
    rw [List.map_append]
    exact List.mem_append_left _ (hstart.resolve_left hne)
  | @step k above _ hfresh hext ih =>
    have hleft := Hierarchy.mem_without.2 ⟨hfresh, hne⟩
    by_cases hk : k = next.key
    · -- the last step goes out from `next`, so its end is one of the supertypes that take its place
      subst hk
      obtain ⟨parent, hparent, rfl⟩ := extends_iff.1 hext
      exact .start hleft (List.mem_map_of_mem (List.mem_append_right _ hparent))
    · exact .step (ih hk) hleft hext

end ReachedWithin

/-- The search finds exactly the keys that are reached from the queue within the fresh ones. -/
theorem mem_keys_climb {k : String} (fresh : List String) :
    (queue : List ClassName) →
      (k ∈ (r.hierarchy.climb fresh queue).map ClassName.key
        ↔ r.ReachedWithin fresh (queue.map ClassName.key) k)
  | [] => by
    rw [Hierarchy.climb_nil]
    exact iff_of_false List.not_mem_nil ReachedWithin.not_nil
  | next :: queue => by
    by_cases hnext : next.key ∈ fresh
    · have := Hierarchy.length_without_lt hnext
      have ih := mem_keys_climb (k := k) (Hierarchy.without fresh next.key)
        (queue ++ r.hierarchy.supertypesOf next)
      rw [Hierarchy.climb_cons_of_mem _ queue hnext, List.map_cons, List.mem_cons,
        key_normalizeName, ih]
      constructor
      · rintro (rfl | h)
        · exact .start hnext (List.mem_map_of_mem List.mem_cons_self)
        · exact h.of_expanded hnext
      · intro h
        by_cases hk : k = next.key
        · exact .inl hk
        · exact .inr (h.expand hk)
    · have ih := mem_keys_climb (k := k) fresh queue
      rw [Hierarchy.climb_cons_of_not_mem _ queue hnext, ih]
      exact ⟨fun h => h.mono (List.subset_cons_self _ _), fun h => h.of_stale hnext⟩
termination_by queue => (fresh.length, queue.length)

/-- **The ancestors of a class are the keys above it, without its own.** -/
theorem mem_keys_ancestors {a : ClassName} {k : String} :
    k ∈ (r.hierarchy.ancestors a).map ClassName.key
      ↔ TransGen r.Extends a.key k ∧ k ≠ a.key := by
  rw [Hierarchy.ancestors]
  cases hd : r.hierarchy.find? a with
  | none =>
    have hroot {above : String} : ¬ r.Extends a.key above := by
      rintro ⟨d, hfound, -⟩
      cases hd.symm.trans hfound
    refine iff_of_false List.not_mem_nil ?_
    rintro ⟨hpath, -⟩
    obtain ⟨above, hext, -⟩ := TransGen.head'_iff.1 hpath
    exact hroot hext
  | some d =>
    have hkey : d.name.key = a.key := key_of_find? hd
    simp only [mem_keys_climb, hkey]
    have hfirst {above : String} :
        r.Extends a.key above ↔ above ∈ d.supertypes.map ClassName.key := by
      rw [extends_iff, Hierarchy.supertypesOf, hd, List.mem_map]
      rfl
    constructor
    · intro h
      refine ⟨?_, (Hierarchy.mem_without.1 h.mem_fresh).2⟩
      induction h with
      | start _ hstart => exact .single (hfirst.2 hstart)
      | step _ _ hext ih => exact .tail ih hext
    · rintro ⟨hpath, hne⟩
      have hfresh {k above : String} (hext : r.Extends k above) (hne : above ≠ a.key) :
          above ∈ Hierarchy.without r.hierarchy.supertypeKeys a.key := by
        obtain ⟨e, he, parent, hparent, rfl⟩ := hext
        have hmem : parent.key ∈ r.hierarchy.supertypeKeys :=
          List.mem_flatMap.2 ⟨e, Catalog.mem_of_get? he, List.mem_map_of_mem hparent⟩
        exact Hierarchy.mem_without.2 ⟨hmem, hne⟩
      induction hpath with
      | single hext => exact .start (hfresh hext hne) (hfirst.1 hext)
      | @tail k above _ hext ih =>
        by_cases hk : k = a.key
        · -- the way so far leads back to the start and is not needed
          subst hk
          exact .start (hfresh hext hne) (hfirst.1 hext)
        · exact .step (ih hk) (hfresh hext hne) hext

/-! ## The subtype relation -/

theorem isSubclass_iff {a b : ClassName} :
    r.hierarchy.isSubclass a b = true ↔ a.key ≠ b.key ∧ TransGen r.Extends a.key b.key := by
  have hlisted : ((r.hierarchy.ancestors a).any fun c => c.key == b.key) = true
      ↔ b.key ∈ (r.hierarchy.ancestors a).map ClassName.key := by
    simp
  rw [Hierarchy.isSubclass, Bool.and_eq_true, hlisted, mem_keys_ancestors, Bool.not_eq_true',
    ← Bool.not_eq_true, isSameClass_iff]
  constructor
  · rintro ⟨hne, hpath, -⟩
    exact ⟨hne, hpath⟩
  · rintro ⟨hne, hpath⟩
    exact ⟨hne, hpath, Ne.symm hne⟩

theorem isSubclass_congr {a a' b b' : ClassName} (ha : a.key = a'.key) (hb : b.key = b'.key) :
    r.hierarchy.isSubclass a b = r.hierarchy.isSubclass a' b' := by
  rw [Bool.eq_iff_iff, isSubclass_iff, isSubclass_iff, ha, hb]

/-- **A class is the same as or below another exactly if its key leads to the other's.** -/
theorem isSameOrSubclass_iff {a b : ClassName} :
    r.hierarchy.isSameOrSubclass a b = true ↔ ReflTransGen r.Extends a.key b.key := by
  rw [Hierarchy.isSameOrSubclass, Bool.or_eq_true, isSameClass_iff, isSubclass_iff,
    Relation.reflTransGen_iff_eq_or_transGen, eq_comm (a := b.key)]
  by_cases h : a.key = b.key
  · simp [h]
  · simp [h]

theorem isSameOrSubclass_trans {a b c : ClassName}
    (hab : r.hierarchy.isSameOrSubclass a b = true)
    (hbc : r.hierarchy.isSameOrSubclass b c = true) :
    r.hierarchy.isSameOrSubclass a c = true :=
  isSameOrSubclass_iff.2 ((isSameOrSubclass_iff.1 hab).trans (isSameOrSubclass_iff.1 hbc))

/-- Without circles, strict subtyping is transitive. -/
theorem Acyclic.isSubclass_trans (h : r.Acyclic) {a b c : ClassName}
    (hab : r.hierarchy.isSubclass a b = true) (hbc : r.hierarchy.isSubclass b c = true) :
    r.hierarchy.isSubclass a c = true := by
  have hpath := (isSubclass_iff.1 hab).2.trans (isSubclass_iff.1 hbc).2
  refine isSubclass_iff.2 ⟨?_, hpath⟩
  intro hkey
  rw [hkey] at hpath
  exact h _ hpath

end Registry

/-! ## Interception -/

theorem Hierarchy.isSameOrSubclass_refl (H : Hierarchy) (type : ClassName) :
    H.isSameOrSubclass type type = true := by
  simp [isSameOrSubclass, isSameClass]

theorem Hierarchy.isSubclass_self (H : Hierarchy) (type : ClassName) :
    H.isSubclass type type = false := by
  simp [isSubclass, isSameClass]

theorem Hierarchy.interception_eq_always_iff {H : Hierarchy} {handler thrown : ClassName} :
    H.interception handler thrown = .always ↔ H.isSameOrSubclass thrown handler = true := by
  rw [interception]
  split
  · rename_i h
    exact ⟨fun _ => h, fun _ => rfl⟩
  · rename_i h
    refine ⟨?_, fun h' => absurd h' h⟩
    intro halways
    split at halways <;> cases halways

/-- Who intercepts every value of a type intercepts every value of its subtypes. -/
theorem Registry.interception_always_of_subclass {r : Registry} {handler thrown special : ClassName}
    (h : r.hierarchy.interception handler thrown = .always)
    (hspecial : r.hierarchy.isSameOrSubclass special thrown = true) :
    r.hierarchy.interception handler special = .always := by
  rw [Hierarchy.interception_eq_always_iff] at h ⊢
  exact Registry.isSameOrSubclass_trans hspecial h

/-- A handler that intercepts every value of a type does so as the type goes down and the handler
    goes up. -/
theorem Registry.interception_always_mono {r : Registry} {handler wider thrown special : ClassName}
    (h : r.hierarchy.interception handler thrown = .always)
    (hspecial : r.hierarchy.isSameOrSubclass special thrown = true)
    (hwider : r.hierarchy.isSameOrSubclass handler wider = true) :
    r.hierarchy.interception wider special = .always := by
  have hhandler := interception_always_of_subclass h hspecial
  rw [Hierarchy.interception_eq_always_iff] at hhandler ⊢
  exact isSameOrSubclass_trans hhandler hwider

/-! ## A circle -/

/-- Two classes that extend each other, and a class below them. -/
def Registry.circle : Registry :=
  [(ClassDecl.bare ⟨"Fault"⟩ .concrete).extending ⟨"Failure"⟩,
    (ClassDecl.bare ⟨"Failure"⟩ .concrete).extending ⟨"Fault"⟩,
    (ClassDecl.bare ⟨"Timeout"⟩ .concrete).extending ⟨"Fault"⟩].foldl Registry.addClass .empty

end ExceptionFlow
