import ExceptionFlow.Hierarchy.Interception
import ExceptionFlow.Registry

set_option autoImplicit false

/-! # Subtyping by any name of a class

With an alias table a class has several names, and `isSameClass` sees through all of them. Subtype
questions do so on one side only. As the class that is asked about, every name will do, since all
that matters is the declaration that it leads to. As the supertype, a name is looked for by its key
among the ancestors, and those are listed under their declared names.

`aliased_names_interchangeable_iff` says exactly when two names of a class may replace each other.
Names that are no aliases always may. An alias, however, is no supertype of anything, while the
class itself may be one of many (`aliased_supertype_is_missed`). -/

namespace ExceptionFlow

/-! ## Names that may replace each other -/

namespace Hierarchy

/-- Two names get the same answers to every question about their relation to a class: as its
    supertype, as its subtype, as the handler or tag that it comes to, as a type that it handles,
    and as a root that it may stand under. -/
structure Interchangeable (H : Hierarchy) (name b b' : ClassName) : Prop where
  supertype : H.isSubclass name b = H.isSubclass name b'
  subtype : H.isSubclass b name = H.isSubclass b' name
  handler : H.interception b name = H.interception b' name
  thrown : H.interception name b = H.interception name b'
  root : H.isSameOrSubclass name b = H.isSameOrSubclass name b'

/-- A name is found by its key among the ancestors of a class. -/
def ListsAbove (H : Hierarchy) (name ancestor : ClassName) : Prop :=
  ∃ c ∈ H.ancestors name, c.key = ancestor.key

variable {H : Hierarchy}

theorem any_key_ancestors {name ancestor : ClassName} :
    ((H.ancestors name).any fun c => c.key == ancestor.key) = true
      ↔ H.ListsAbove name ancestor := by
  simp [ListsAbove]

/-- Every name in the search is listed as its declaration spells it, where it has one. -/
theorem exists_normalizeName_of_mem_climb {c : ClassName} (fresh : List String) :
    (queue : List ClassName) → c ∈ H.climb fresh queue → ∃ name, c = H.normalizeName name
  | [], h => by
    rw [climb_nil] at h
    cases h
  | next :: queue, h => by
    by_cases hnext : next.key ∈ fresh
    · have := length_without_lt hnext
      rw [climb_cons_of_mem _ queue hnext] at h
      rcases List.mem_cons.1 h with rfl | hrest
      · exact ⟨next, rfl⟩
      · exact exists_normalizeName_of_mem_climb _ _ hrest
    · rw [climb_cons_of_not_mem _ queue hnext] at h
      exact exists_normalizeName_of_mem_climb _ _ h
termination_by queue => (fresh.length, queue.length)

theorem exists_normalizeName_of_mem_ancestors {name c : ClassName} (h : c ∈ H.ancestors name) :
    ∃ original, c = H.normalizeName original := by
  rw [ancestors] at h
  split at h
  · cases h
  · exact exists_normalizeName_of_mem_climb _ _ h

/-! ## Identity -/

/-- A name counts by its key alone, and a declaration by its name. -/
structure Coherent (H : Hierarchy) : Prop where
  find?_congr : ∀ {a b : ClassName}, a.key = b.key → H.find? a = H.find? b
  eq_of_name_eq : ∀ {a b : ClassName} {left right : ClassDecl},
    H.find? a = some left → H.find? b = some right → left.name = right.name → left = right

namespace Coherent

/-- Two names denote one class if they lead to one declaration, or to none by one key. -/
theorem isSameClass_iff (hH : H.Coherent) {a b : ClassName} :
    H.isSameClass a b = true
      ↔ H.find? a = H.find? b ∧ ((H.find? a).isSome = true ∨ a.key = b.key) := by
  rw [isSameClass, Bool.or_eq_true, beq_iff_eq]
  constructor
  · rintro (rfl | h)
    · exact ⟨rfl, .inr rfl⟩
    · split at h
      · rename_i left right hleft hright
        rw [hleft, hright, hH.eq_of_name_eq hleft hright (beq_iff_eq.1 h)]
        exact ⟨rfl, .inl rfl⟩
      · have hkey : a.key = b.key := beq_iff_eq.1 h
        exact ⟨hH.find?_congr hkey, .inr hkey⟩
  · rintro ⟨hfind, hknown⟩
    right
    rw [← hfind]
    cases hd : H.find? a with
    | some d => exact beq_self_eq_true d.name
    | none =>
      rw [hd] at hknown
      exact beq_iff_eq.2 (hknown.resolve_left Bool.false_ne_true)

theorem isSameClass_comm (hH : H.Coherent) (a b : ClassName) :
    H.isSameClass a b = H.isSameClass b a := by
  have hsymm {x y : ClassName} (h : H.isSameClass x y = true) : H.isSameClass y x = true := by
    obtain ⟨hfind, hknown⟩ := hH.isSameClass_iff.1 h
    refine hH.isSameClass_iff.2 ⟨hfind.symm, ?_⟩
    rw [← hfind]
    exact hknown.imp id Eq.symm
  exact Bool.eq_iff_iff.2 ⟨hsymm, hsymm⟩

theorem isSameClass_congr_left (hH : H.Coherent) {b b' : ClassName}
    (h : H.isSameClass b b' = true) (a : ClassName) :
    H.isSameClass b a = H.isSameClass b' a := by
  obtain ⟨hfind, hknown⟩ := hH.isSameClass_iff.1 h
  rw [Bool.eq_iff_iff, hH.isSameClass_iff, hH.isSameClass_iff, hfind]
  refine and_congr_right fun _ => ?_
  rcases hknown with hsome | hkey
  · rw [hfind] at hsome
    simp [hsome]
  · rw [hkey]

theorem isSameClass_congr_right (hH : H.Coherent) {b b' : ClassName}
    (h : H.isSameClass b b' = true) (a : ClassName) :
    H.isSameClass a b = H.isSameClass a b' := by
  rw [hH.isSameClass_comm a b, hH.isSameClass_comm a b', hH.isSameClass_congr_left h a]

/-! ## As a subtype, and as a supertype -/

/-- By whichever of its names, a class has the same supertypes. -/
theorem isSubclass_congr_left (hH : H.Coherent) {b b' : ClassName}
    (h : H.isSameClass b b' = true) (a : ClassName) :
    H.isSubclass b a = H.isSubclass b' a := by
  have hancestors : H.ancestors b = H.ancestors b' := by
    rw [ancestors, ancestors, (hH.isSameClass_iff.1 h).1]
  rw [isSubclass, isSubclass, hH.isSameClass_congr_left h a, hancestors]

theorem isSubclass_eq_iff (hH : H.Coherent) {b b' : ClassName} (h : H.isSameClass b b' = true)
    (a : ClassName) :
    H.isSubclass a b = H.isSubclass a b'
      ↔ H.isSameClass a b = true ∨ (H.ListsAbove a b ↔ H.ListsAbove a b') := by
  rw [isSubclass, isSubclass, ← hH.isSameClass_congr_right h a, ← any_key_ancestors,
    ← any_key_ancestors, ← Bool.eq_iff_iff]
  cases H.isSameClass a b with
  | true => simp
  | false => simp

/-- If two names of a class are the same as supertypes of another, they are the same altogether. -/
theorem interchangeable_of_isSubclass_eq (hH : H.Coherent) {a b b' : ClassName}
    (h : H.isSameClass b b' = true) (hsuper : H.isSubclass a b = H.isSubclass a b') :
    H.Interchangeable a b b' := by
  have hsub := hH.isSubclass_congr_left h a
  have hroot : H.isSameOrSubclass a b = H.isSameOrSubclass a b' := by
    rw [isSameOrSubclass, isSameOrSubclass, hsuper, hH.isSameClass_congr_right h a]
  have hbelow : H.isSameOrSubclass b a = H.isSameOrSubclass b' a := by
    rw [isSameOrSubclass, isSameOrSubclass, hsub, hH.isSameClass_congr_left h a]
  exact {
    supertype := hsuper
    subtype := hsub
    handler := by rw [interception, interception, hroot, hsub]
    thrown := by rw [interception, interception, hbelow, hsuper]
    root := hroot }

end Coherent

end Hierarchy

/-! ## Alias tables -/

namespace Registry

variable {r : Registry} {aliases : Catalog Alias.key}

/-- By whatever name it was found, a class is registered under its own. -/
theorem class?_of_aliased_find? {a : ClassName} {d : ClassDecl}
    (h : (r.aliasedHierarchy aliases).find? a = some d) : r.class? d.name = some d := by
  have hregistered {k : String} (hk : r.classes.get? k = some d) : r.class? d.name = some d := by
    have hkey : d.key = k := Catalog.key_of_get? hk
    rw [← hkey] at hk
    exact hk
  change r.aliasedClass? aliases a = some d at h
  rw [aliasedClass?] at h
  split at h
  · exact hregistered h
  · exact hregistered h

theorem aliasedHierarchy_coherent (r : Registry) (aliases : Catalog Alias.key) :
    (r.aliasedHierarchy aliases).Coherent where
  find?_congr {a b} h := by
    show r.aliasedClass? aliases a = r.aliasedClass? aliases b
    rw [aliasedClass?, aliasedClass?, class?, class?, h]
  eq_of_name_eq {_ _ left right} hleft hright hname := by
    have hregistered := class?_of_aliased_find? hleft
    rw [hname, class?_of_aliased_find? hright] at hregistered
    exact (Option.some.inj hregistered).symm

/-- A name that is no alias has the key of the class that it leads to. -/
theorem key_of_unaliased {a : ClassName} {d : ClassDecl} (ha : aliases.get? a.key = none)
    (h : (r.aliasedHierarchy aliases).find? a = some d) : d.name.key = a.key := by
  change r.aliasedClass? aliases a = some d at h
  rw [aliasedClass?, ha] at h
  have hkey : d.key = a.key := Catalog.key_of_get? h
  exact hkey

/-- Names of one class that are no aliases have one key. -/
theorem key_eq_of_unaliased {b b' : ClassName}
    (h : (r.aliasedHierarchy aliases).isSameClass b b' = true) (hb : aliases.get? b.key = none)
    (hb' : aliases.get? b'.key = none) : b.key = b'.key := by
  obtain ⟨hfind, hknown⟩ := (r.aliasedHierarchy_coherent aliases).isSameClass_iff.1 h
  rcases hknown with hsome | hkey
  · obtain ⟨d, hd⟩ := Option.isSome_iff_exists.1 hsome
    rw [← key_of_unaliased hb hd, key_of_unaliased hb' (hfind.symm.trans hd)]
  · exact hkey

/-- A name that leads to a class, but under which none is registered, is never among ancestors: they
    bear registered names, or names that lead to nothing. -/
theorem not_listsAbove_of_unregistered {b : ClassName}
    (hknown : (r.aliasedHierarchy aliases).knows b = true) (hb : r.class? b = none)
    (a : ClassName) : ¬ (r.aliasedHierarchy aliases).ListsAbove a b := by
  rintro ⟨c, hc, hkey⟩
  obtain ⟨name, rfl⟩ := Hierarchy.exists_normalizeName_of_mem_ancestors hc
  rw [Hierarchy.normalizeName, Hierarchy.resolve?] at hkey
  cases hd : (r.aliasedHierarchy aliases).find? name with
  | some d =>
    rw [hd] at hkey
    have hregistered := class?_of_aliased_find? hd
    rw [class?, show d.name.key = b.key from hkey, ← class?, hb] at hregistered
    cases hregistered
  | none =>
    rw [hd] at hkey
    have hsame := (r.aliasedHierarchy_coherent aliases).find?_congr
      (show name.key = b.key from hkey)
    rw [Hierarchy.knows, ← hsame, hd] at hknown
    cases hknown

/-- **When names of one class may replace each other.** As the class that is asked about they always
    may. In all respects they may exactly if the other class is the same, or if both or none of the
    names are listed among its ancestors. This is so for names that are no aliases; but nothing is a
    subtype of a name under which no class is registered, although it stands for one that is. -/
theorem aliased_names_interchangeable_iff (r : Registry) (aliases : Catalog Alias.key)
    {b b' : ClassName} (h : (r.aliasedHierarchy aliases).isSameClass b b' = true) (a : ClassName) :
    (r.aliasedHierarchy aliases).isSubclass b a = (r.aliasedHierarchy aliases).isSubclass b' a ∧
    ((r.aliasedHierarchy aliases).Interchangeable a b b'
      ↔ (r.aliasedHierarchy aliases).isSameClass a b = true ∨
        ((r.aliasedHierarchy aliases).ListsAbove a b
          ↔ (r.aliasedHierarchy aliases).ListsAbove a b')) ∧
    (aliases.get? b.key = none → aliases.get? b'.key = none →
      (r.aliasedHierarchy aliases).Interchangeable a b b') ∧
    ((r.aliasedHierarchy aliases).knows b = true → r.class? b = none →
      (r.aliasedHierarchy aliases).isSubclass a b = false) := by
  have hcoherent := r.aliasedHierarchy_coherent aliases
  refine ⟨hcoherent.isSubclass_congr_left h a, ⟨?_, ?_⟩, ?_, ?_⟩
  · intro hall
    exact (hcoherent.isSubclass_eq_iff h a).1 hall.supertype
  · intro hlisted
    exact hcoherent.interchangeable_of_isSubclass_eq h ((hcoherent.isSubclass_eq_iff h a).2 hlisted)
  · intro hb hb'
    have hlisted : (r.aliasedHierarchy aliases).ListsAbove a b
        ↔ (r.aliasedHierarchy aliases).ListsAbove a b' := by
      rw [Hierarchy.ListsAbove, Hierarchy.ListsAbove, key_eq_of_unaliased h hb hb']
    exact hcoherent.interchangeable_of_isSubclass_eq h
      ((hcoherent.isSubclass_eq_iff h a).2 (.inr hlisted))
  · intro hknown hb
    refine Bool.eq_false_iff.2 ?_
    intro hsub
    obtain ⟨-, hlisted⟩ := (Bool.and_eq_true _ _).mp hsub
    exact not_listsAbove_of_unregistered hknown hb a (Hierarchy.any_key_ancestors.1 hlisted)

/-! ## A class with two names -/

/-- A class and its only subclass. -/
def baseAndChild : Registry :=
  (Registry.empty.addClass (.bare ⟨"Base"⟩ .concrete)).addClass
    ((ClassDecl.bare ⟨"Child"⟩ .concrete).extending ⟨"Base"⟩)

def baseAlias : Catalog Alias.key := .ofList [⟨⟨"Alias"⟩, ⟨"Base"⟩⟩]

/-- **An alias is missed as a supertype.** The subclass is below the class and not below its alias,
    so that a handler for the one intercepts it and a handler for the other does not. -/
theorem aliased_supertype_is_missed :
    (baseAndChild.aliasedHierarchy baseAlias).isSameClass ⟨"Alias"⟩ ⟨"Base"⟩ = true ∧
    (baseAndChild.aliasedHierarchy baseAlias).isSubclass ⟨"Child"⟩ ⟨"Base"⟩ = true ∧
    (baseAndChild.aliasedHierarchy baseAlias).isSubclass ⟨"Child"⟩ ⟨"Alias"⟩ = false ∧
    (baseAndChild.aliasedHierarchy baseAlias).interception ⟨"Base"⟩ ⟨"Child"⟩ = .always ∧
    (baseAndChild.aliasedHierarchy baseAlias).interception ⟨"Alias"⟩ ⟨"Child"⟩ = .never ∧
    ¬ (baseAndChild.aliasedHierarchy baseAlias).Interchangeable ⟨"Child"⟩ ⟨"Alias"⟩ ⟨"Base"⟩ := by
  have hsame : (baseAndChild.aliasedHierarchy baseAlias).isSameClass ⟨"Alias"⟩ ⟨"Base"⟩ = true := by
    decide +kernel
  have hbelow : (baseAndChild.aliasedHierarchy baseAlias).isSubclass ⟨"Child"⟩ ⟨"Base"⟩ = true := by
    decide +kernel
  obtain ⟨-, -, -, hmissed⟩ :=
    aliased_names_interchangeable_iff baseAndChild baseAlias hsame ⟨"Child"⟩
  have hnot := hmissed (by decide +kernel) rfl
  refine ⟨hsame, hbelow, hnot, by decide +kernel, by decide +kernel, ?_⟩
  intro hall
  rw [hall.supertype, hbelow] at hnot
  cases hnot

end Registry

end ExceptionFlow
