import ExceptionFlow.Defaults
import ExceptionFlow.Node
import ExceptionFlow.Refinement

set_option autoImplicit false

/-! # Inference of throw types

Which exception types a construct may throw, in the order in which its rules find them. Classes,
methods and functions that are not known contribute nothing. -/

namespace ExceptionFlow

/-- What inference draws on. -/
structure ThrowModel where
  hierarchy : Hierarchy
  defaults : Defaults
  refinements : List Refinement

namespace ThrowModel

variable (M : ThrowModel)

/-- The types in their declared spelling, as far as they are declared. -/
def normalize (types : TypeSet) : TypeSet := .ofList (types.toList.map M.hierarchy.normalizeName)

/-- The union of the sets that are found for the members of a list. -/
def collect {α : Type} (found : α → TypeSet) (items : List α) : TypeSet :=
  items.foldl (fun types item => types ∪ found item) ∅

/-! ## Methods -/

/-- The throw types of a method: the configured ones, or else those of its annotation. None if there
    is no such method. -/
def method? (owner : ClassName) (method : String) : Option TypeSet :=
  match M.defaults.method? M.hierarchy owner method with
  | some types => some (M.normalize types)
  | none => (M.hierarchy.findMethod? owner method).map fun found => M.normalize found.2.throwTypes

/-- The throw types of a method, none if there is no such method. -/
def methodTypes (owner : ClassName) (method : String) : TypeSet := (M.method? owner method).getD ∅

/-- The throw types of a call, for which a catch-all method may stand in. -/
def callTypes (owner : ClassName) (method fallback : String) : TypeSet :=
  match M.method? owner method with
  | some types => types
  | none => M.methodTypes owner fallback

/-! ## Operators -/

/-- The classes of a thrown value. -/
def thrownTypes (value : StaticType) : TypeSet :=
  .ofList (value.classNames.filterMap M.hierarchy.resolve?)

/-- A division fails on a zero divisor. -/
def divisionTypes (divisor : StaticType) : TypeSet :=
  if divisor.intValues.mayBe 0 then
    .single (M.hierarchy.normalizeName Refinement.divisionByZeroError)
  else ∅

/-- A shift fails by a negative amount. -/
def shiftTypes (amount : StaticType) : TypeSet :=
  if amount.intValues.mayBeNegative then
    .single (M.hierarchy.normalizeName Refinement.arithmeticError)
  else ∅

/-! ## Protocols -/

def implements (owner : ClassName) (iface : String) : Bool :=
  M.hierarchy.isSameOrSubclass owner ⟨iface⟩

/-- The methods that a loop calls on an object, none if it cannot be looped over. -/
def iterationMethods (owner : ClassName) (bindsKey : Bool) : List String :=
  if M.implements owner "Iterator" then
    if bindsKey then ["next", "valid", "current", "key"] else ["next", "valid", "current"]
  else if M.implements owner "IteratorAggregate" then ["getIterator"]
  else []

def iterationTypes (subject : StaticType) (bindsKey : Bool) : TypeSet :=
  collect (fun owner => collect (M.methodTypes owner) (M.iterationMethods owner bindsKey))
    subject.classNames

/-- The throw types of a method on those objects that implement its interface. -/
def implementedTypes (subject : StaticType) (iface method : String) : TypeSet :=
  collect (fun owner => if M.implements owner iface then M.methodTypes owner method else ∅)
    subject.classNames

/-- The throw types of the methods that a standard function calls on its first argument. -/
def protocolTypes (function : String) (args : List StaticType) : TypeSet :=
  match args with
  | [] => ∅
  | subject :: rest =>
    match function with
    | "iterator_to_array" =>
      -- keys are kept unless the second argument is known to be false
      let dropsKeys := match rest with
        | .atom (.boolConst false) :: _ => true
        | _ => false
      M.iterationTypes subject (!dropsKeys)
    | "iterator_count" => M.iterationTypes subject false
    | "iterator_apply" => M.iterationTypes subject false
    | "count" => M.implementedTypes subject "Countable" "count"
    | "json_encode" => M.implementedTypes subject "JsonSerializable" "jsonSerialize"
    | _ => ∅

/-! ## Function calls -/

/-- The throw types that are declared for a function: the configured ones, or else those of its
    annotation. -/
def declaredTypes (function : String) : TypeSet :=
  match M.defaults.function? function with
  | some types => types
  | none =>
    match M.hierarchy.findFunction? function with
    | some f => f.throwTypes
    | none => ∅

/-- Apply a refinement to the throw types known so far. One that does not support the function or
    cannot handle the call changes nothing. -/
def refineBy (call : CallSite) (known : TypeSet) (r : Refinement) : TypeSet :=
  if r.supports call.name then
    match r.refine call known with
    | .ok refined => M.normalize refined
    | .error _ => known
  else known

/-- The throw types of a function call: the declared ones, refined in turn, then those of the
    methods it calls on its first argument. -/
def functionTypes (name : String) (args : List StaticType) : TypeSet :=
  let function := Symbol.functionKey name
  let declared := M.normalize (M.declaredTypes function)
  M.refinements.foldl (M.refineBy ⟨function, args⟩) declared ∪ M.protocolTypes function args

/-! ## Constructs -/

/-- The types that a construct may throw. -/
def infer : Construct → TypeSet
  | .throw value => M.thrownTypes value
  | .methodCall receiver method =>
    collect (fun owner => M.callTypes owner method "__call") receiver.classNames
  | .staticCall owner method => M.callTypes owner method "__callStatic"
  | .new owner => M.methodTypes owner "__construct"
  | .division divisor => M.divisionTypes divisor
  | .shift amount => M.shiftTypes amount
  | .iteration subject bindsKey => M.iterationTypes subject bindsKey
  | .call name args => M.functionTypes name args

end ThrowModel

end ExceptionFlow
