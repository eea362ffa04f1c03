import ExceptionFlow.Declaration

set_option autoImplicit false

/-! # Class hierarchies

A hierarchy answers two look-ups, of classes and of functions, and every other question is derived
from them. Nothing is assumed of the class look-up but that its answers come from a finite list: it
may know one class under several names, supertypes may be missing, and classes may inherit from each
other in a circle. -/

namespace ExceptionFlow

/-- The classes and functions that a unit may mention. -/
structure Hierarchy where
  find? : ClassName → Option ClassDecl
  findFunction? : String → Option FunctionDecl
  /-- All declarations that a class look-up may give. -/
  declared : List ClassDecl
  mem_declared : ∀ {name : ClassName} {d : ClassDecl}, find? name = some d → d ∈ declared

namespace Hierarchy

variable (H : Hierarchy)

def knows (name : ClassName) : Bool := (H.find? name).isSome

/-- The name of a class as its declaration spells it. -/
def resolve? (name : ClassName) : Option ClassName := (H.find? name).map (·.name)

/-- The declared spelling where there is one, the given name otherwise. -/
def normalizeName (name : ClassName) : ClassName := (H.resolve? name).getD name

/-- The direct supertypes of a class, none if it is not known. -/
def supertypesOf (name : ClassName) : List ClassName :=
  ((H.find? name).map ClassDecl.supertypes).getD []

/-! ## Ancestors -/

/-- The keys of all names that stand as a supertype in some declaration. -/
def supertypeKeys : List String := H.declared.flatMap fun d => d.supertypes.map ClassName.key

theorem mem_supertypeKeys {name parent : ClassName} {d : ClassDecl} (hd : H.find? name = some d)
    (hp : parent ∈ d.supertypes) : parent.key ∈ H.supertypeKeys :=
  List.mem_flatMap.2 ⟨d, H.mem_declared hd, List.mem_map.2 ⟨parent, hp, rfl⟩⟩

/-- The keys other than `k`. -/
def without (keys : List String) (k : String) : List String := keys.filter (· ≠ k)

theorem mem_without {keys : List String} {k other : String} :
    other ∈ without keys k ↔ other ∈ keys ∧ other ≠ k := by
  simp [without]

theorem length_without_lt {keys : List String} {k : String} (h : k ∈ keys) :
    (without keys k).length < keys.length := by
  induction keys with
  | nil => simp at h
  | cons a rest ih =>
    by_cases ha : a = k
    · have hle := List.length_filter_le (fun x => decide (x ≠ k)) rest
      simpa [without, ha] using Nat.lt_succ_of_le hle
    · have hk : k ∈ rest := by
        rcases List.mem_cons.1 h with e | e
        · exact absurd e.symm ha
        · exact e
      simpa [without, ha] using ih hk

/-- The first of some names whose key is in `fresh`, with the names behind it. -/
def nextFresh? (fresh : List String) :
    List ClassName → Option ({ name : ClassName // name.key ∈ fresh } × List ClassName)
  | [] => none
  | name :: rest => if h : name.key ∈ fresh then some (⟨name, h⟩, rest) else nextFresh? fresh rest

/-- Visit the queued names in turn, each key of `fresh` once. A visited name is listed in its
    declared spelling, or as it stands if it is not declared; the supertypes of a visited name join
    the end of the queue. The search ends because every visit takes a key out of `fresh`. -/
def climb (fresh : List String) (queue : List ClassName) : List ClassName :=
  match nextFresh? fresh queue with
  | none => []
  | some (next, rest) =>
    have := length_without_lt next.2
    H.normalizeName next.1 :: climb (without fresh next.1.key) (rest ++ H.supertypesOf next.1)
termination_by fresh.length

@[simp] theorem climb_nil (fresh : List String) : H.climb fresh [] = [] := by
  rw [climb, nextFresh?]

/-- A name whose key was visited before is passed over. -/
theorem climb_cons_of_not_mem {fresh : List String} {next : ClassName} (queue : List ClassName)
    (h : next.key ∉ fresh) : H.climb fresh (next :: queue) = H.climb fresh queue := by
  rw [climb, nextFresh?, dif_neg h, ← climb]

/-- A name whose key was not visited yet is listed, and its supertypes are visited after all names
    that wait already. -/
theorem climb_cons_of_mem {fresh : List String} {next : ClassName} (queue : List ClassName)
    (h : next.key ∈ fresh) :
    H.climb fresh (next :: queue)
      = H.normalizeName next ::
          H.climb (without fresh next.key) (queue ++ H.supertypesOf next) := by
  rw [climb, nextFresh?, dif_pos h]

/-- All strict supertypes, breadth first, the parent before the interfaces. -/
def ancestors (name : ClassName) : List ClassName :=
  match H.find? name with
  | none => []
  | some d => H.climb (without H.supertypeKeys d.name.key) d.supertypes

/-! ## Identity and subtyping -/

/-- Whether two names denote one class: one spelling, one declaration, or, when one of them is not
    declared, one key. -/
def isSameClass (a b : ClassName) : Bool :=
  a == b ||
    match H.find? a, H.find? b with
    | some left, some right => left.name == right.name
    | _, _ => a.key == b.key

/-- Strict subtyping: another class that has `ancestor` among its ancestors. -/
def isSubclass (name ancestor : ClassName) : Bool :=
  !H.isSameClass name ancestor && (H.ancestors name).any (fun a => a.key == ancestor.key)

def isSameOrSubclass (name ancestor : ClassName) : Bool :=
  H.isSameClass name ancestor || H.isSubclass name ancestor

/-! ## Methods -/

/-- The method of a class, its own or else the first in the order of its ancestors, together with
    the class that declares it. -/
def findMethod? (name : ClassName) (method : String) : Option (ClassDecl × MethodDecl) :=
  (H.find? name).bind fun d =>
    match d.ownMethod? method with
    | some m => some (d, m)
    | none =>
      (H.ancestors name).findSome? fun a =>
        (H.find? a).bind fun ad => (ad.ownMethod? method).map fun m => (ad, m)

end Hierarchy

end ExceptionFlow
