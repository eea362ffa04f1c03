import ExceptionFlow.Hierarchy.Basic
import ExceptionFlow.Options
import ExceptionFlow.Pattern.Matching
import ExceptionFlow.Pattern.Reader

set_option autoImplicit false

/-! # Exempt methods

Some methods are there to fail, such as those that a test framework calls. What leaves an exempt
method needs no declaration, and what it declares without throwing is not reported. An exemption
covers the methods of a class and of its subtypes whose names match a pattern. -/

namespace ExceptionFlow

structure Exemption where
  owner : ClassName
  pattern : Pattern.Expr

namespace Exemption

/-- Whether the exemption covers a method. -/
def covers (H : Hierarchy) (owner : ClassName) (method : String) (e : Exemption) : Bool :=
  e.pattern.occursIn method && H.isSameOrSubclass owner e.owner

/-- The exemption that an entry of the options states. -/
def ofEntry (entry : String × String) : Except ConfigError Exemption :=
  match Pattern.Expr.ofText? entry.2 with
  | some pattern => .ok ⟨.ofText entry.1, pattern⟩
  | none => .error (.invalidPattern entry.1)

/-- All exemptions that the options state. -/
def ofOptions (o : Options) : Except ConfigError (List Exemption) :=
  o.methodWhitelist.items.mapM ofEntry

/-- Whether some exemption covers a method. -/
def anyCovers (exemptions : List Exemption) (H : Hierarchy) (owner : ClassName)
    (method : String) : Bool :=
  exemptions.any (covers H owner method)

end Exemption

end ExceptionFlow
