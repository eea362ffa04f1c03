import ExceptionFlow.Hierarchy.Basic

set_option autoImplicit false

/-! # Interception

How a handler, a catch clause or a declared throw type, meets a thrown type. -/

namespace ExceptionFlow

/-- How many of the values of a thrown type a handler intercepts. -/
inductive Interception where
  | always
  /-- The handler's type is a strict subtype of the thrown type. -/
  | sometimes
  | never
  deriving DecidableEq

/-- The interception of `thrown` by a handler of type `handler`. -/
def Hierarchy.interception (H : Hierarchy) (handler thrown : ClassName) : Interception :=
  if H.isSameOrSubclass thrown handler then .always
  else if H.isSubclass handler thrown then .sometimes
  else .never

end ExceptionFlow
