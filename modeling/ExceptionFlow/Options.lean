import ExceptionFlow.Catalog

set_option autoImplicit false

/-! # Options

What a user may configure. Names are kept as they are written; whoever uses them makes them
canonical. -/

namespace ExceptionFlow

/-- Values by written name. -/
abbrev NameTable (α : Type) := Catalog (Prod.fst : String × α → String)

/-- The options of a checker. -/
structure Options where
  /-- Report catches of unchecked types that nothing in the try body throws. -/
  reportUnusedCatchesOfUncheckedExceptions : Bool := false
  /-- Without it, implementations of abstract methods may declare checked types they never throw. -/
  reportUnusedCheckedThrowsInSubtypes : Bool := true
  reportCheckedThrowsInGlobalScope : Bool := false
  /-- The roots of the checked types. -/
  checkedExceptions : List String := []
  /-- The roots of the unchecked types, everything else being checked. -/
  uncheckedExceptions : List String := []
  /-- Throw types by class and method, in place of the methods' own annotations. -/
  methodThrowTypeDeclarations : NameTable (NameTable (List String)) := ∅
  /-- Throw types by function, in place of the functions' own annotations. -/
  functionThrowTypeDeclarations : NameTable (List String) := ∅
  /-- By class, a pattern of the names of methods whose throws are not reported. -/
  methodWhitelist : NameTable String := ∅

/-- Why a configuration is refused. -/
inductive ConfigError where
  /-- The text of the options is malformed. -/
  | malformed
  /-- There are roots of both kinds. -/
  | conflictingRoots
  /-- The pattern for this class, named as written, is none. -/
  | invalidPattern (className : String)
  deriving DecidableEq

def ConfigError.message : ConfigError → String
  | .malformed => "malformed checker configuration"
  | .conflictingRoots => "checkedExceptions and uncheckedExceptions cannot both be set"
  | .invalidPattern className => "invalid methodWhitelist pattern for " ++ className

end ExceptionFlow
