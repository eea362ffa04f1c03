import ExceptionFlow.Hierarchy.Basic

set_option autoImplicit false

/-! # Depth

The depth of a class is the length of the longest chain of supertypes above it. Sorting by depth
places every class after its supertypes. -/

namespace ExceptionFlow.Hierarchy

variable (H : Hierarchy)

/-- The longest chain above a class that uses no declared key outside `free`. A chain that comes
    back to a class on itself ends there, so circles of inheritance do no harm. -/
def chainAbove (free : List String) (name : ClassName) : Nat :=
  match H.find? name with
  | none => 0
  | some d =>
    if h : d.name.key ∈ free then
      have := length_without_lt h
      (d.supertypes.map fun parent =>
        1 + chainAbove (without free d.name.key) parent).foldl max 0
    else 0
termination_by free.length

/-- The length of the longest supertype chain above a class; zero for roots and unknown names. -/
def depth (name : ClassName) : Nat := H.chainAbove (H.declared.map (·.name.key)) name

/-- Supertypes first; at equal depth by key, so that the spellings of a class are equal. -/
def compareSupertypesFirst (a b : ClassName) : Ordering :=
  (compare (H.depth a) (H.depth b)).then (compare a.key b.key)

/-- Sort items by the class that each is about, supertypes first. Items that compare equal keep
    their order. -/
def sortSupertypesFirst {α : Type} (about : α → ClassName) (items : List α) : List α :=
  items.mergeSort fun a b => H.compareSupertypesFirst (about a) (about b) != .gt

end ExceptionFlow.Hierarchy
