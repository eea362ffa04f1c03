import ExceptionFlow.StaticType
import ExceptionFlow.TypeSet

set_option autoImplicit false

/-! # Refinements of function calls

Some functions throw depending on their arguments. A refinement takes the throw types that are
known so far and gives the ones for a call with these arguments, or says that it cannot handle the
call. -/

namespace ExceptionFlow

/-- A call of a function. -/
structure CallSite where
  name : String
  args : List StaticType

/-- The call lacks the argument at this position. -/
structure UnsupportedCall where
  function : String
  position : Nat
  deriving DecidableEq

def UnsupportedCall.message (e : UnsupportedCall) : String :=
  e.function ++ "() called without argument #" ++ toString e.position

/-- The argument at a position. -/
def CallSite.arg (call : CallSite) (position : Nat) : Except UnsupportedCall StaticType :=
  match call.args[position]? with
  | some t => .ok t
  | none => .error ⟨call.name, position⟩

/-- A rule for the throw types of some functions. -/
structure Refinement where
  supports : String → Bool
  refine : CallSite → TypeSet → Except UnsupportedCall TypeSet

namespace Refinement

def divisionByZeroError : ClassName := ⟨"DivisionByZeroError"⟩

def arithmeticError : ClassName := ⟨"ArithmeticError"⟩

def jsonException : ClassName := ⟨"JsonException"⟩

/-- Insert a name if a condition holds. -/
def insertIf (types : TypeSet) (condition : Bool) (name : ClassName) : TypeSet :=
  if condition then types.insert name else types

/-- Integer division fails on a zero divisor, and on the one quotient that is too large. -/
def integerDivision : Refinement where
  supports name := name == "intdiv"
  refine call known :=
    match call.arg 0, call.arg 1 with
    | .ok dividend, .ok divisor =>
      let dividends := dividend.intValues
      let divisors := divisor.intValues
      let known := insertIf known (divisors.mayBe 0) divisionByZeroError
      .ok (insertIf known (divisors.mayBe (-1) && dividends.mayBe Int64.minValue) arithmeticError)
    | .error e, _ => .error e
    | _, .error e => .error e

/-- The flag that makes the JSON functions throw: bit 22. -/
def throwOnError : Int64 := (1 : Int64) <<< (22 : Int64)

/-- Where the flags of a JSON function stand. -/
def flagsPosition (function : String) : Nat := if function == "json_decode" then 3 else 1

/-- Whether flags with these values may have the throwing flag set. -/
def mayThrowOnError (flags : IntValues) : Bool :=
  flags.residual || !flags.ranges.isEmpty ||
    flags.constants.any fun v => decide (v &&& throwOnError ≠ 0)

/-- The JSON functions throw when a flag asks for it. -/
def json : Refinement where
  supports name := name == "json_encode" || name == "json_decode"
  refine call known :=
    if call.args.isEmpty then .error ⟨call.name, 0⟩
    else
      match call.args[flagsPosition call.name]? with
      | none => .ok known
      | some flags => .ok (insertIf known (mayThrowOnError flags.intValues) jsonException)

/-- The refinements that every checker starts with. -/
def standard : List Refinement := [integerDivision, json]

/-! ## Refinements by rule -/

/-- What a rule does with the types that are known. -/
inductive Change where
  | add
  | replace
  | remove

def Change.apply (change : Change) (known types : TypeSet) : TypeSet :=
  match change with
  | .add => known ∪ types
  | .replace => types
  | .remove => known.difference types

/-- A rule that changes the throw types of the named functions in one way, given that the call has
    an argument at the required position. -/
structure Rule where
  functions : List String
  change : Change
  types : TypeSet
  requires : Option Nat

def ofRule (rule : Rule) : Refinement where
  supports name := rule.functions.contains name
  refine call known :=
    match rule.requires with
    | none => .ok (rule.change.apply known rule.types)
    | some position => (call.arg position).map fun _ => rule.change.apply known rule.types

end Refinement

end ExceptionFlow
