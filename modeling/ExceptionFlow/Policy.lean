import ExceptionFlow.Hierarchy.Basic
import ExceptionFlow.Options

set_option autoImplicit false

/-! # Which exceptions are checked

A checked exception must be caught or declared. The checked types are those under some roots, or all
but those under some roots. A type that the hierarchy does not know is never checked. -/

namespace ExceptionFlow

inductive CheckedPolicy where
  /-- Checked are these types and their subtypes. -/
  | checkedRoots (roots : List ClassName)
  /-- Checked are all types but these and their subtypes. -/
  | uncheckedRoots (roots : List ClassName)
  deriving DecidableEq

namespace CheckedPolicy

/-- Without configuration everything is checked. -/
def default : CheckedPolicy := .uncheckedRoots []

/-- The policy that the options ask for; they must not name roots of both kinds. -/
def ofOptions (o : Options) : Except ConfigError CheckedPolicy :=
  match o.checkedExceptions, o.uncheckedExceptions with
  | [], unchecked => .ok (.uncheckedRoots (unchecked.map .ofText))
  | checked, [] => .ok (.checkedRoots (checked.map .ofText))
  | _, _ => .error .conflictingRoots

/-- Whether a type is or extends one of the roots. -/
def isUnder (H : Hierarchy) (roots : List ClassName) (type : ClassName) : Bool :=
  roots.any fun root => H.isSameOrSubclass type root

def isChecked (policy : CheckedPolicy) (H : Hierarchy) (type : ClassName) : Bool :=
  H.knows type &&
    match policy with
    | .checkedRoots roots => isUnder H roots type
    | .uncheckedRoots roots => !isUnder H roots type

/-- The checked members, in their order. -/
def filterChecked (policy : CheckedPolicy) (H : Hierarchy) (types : TypeSet) : TypeSet :=
  types.filter (policy.isChecked H)

end CheckedPolicy

end ExceptionFlow
