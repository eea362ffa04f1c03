import ExceptionFlow.Diagnostic
import ExceptionFlow.Exemption
import ExceptionFlow.Finding.Catch
import ExceptionFlow.Finding.Tag
import ExceptionFlow.Inference
import ExceptionFlow.Policy
import ExceptionFlow.Scope

set_option autoImplicit false

/-! # The checker

A checker goes through the nodes of a unit, keeps the scope in step with them and reports what it
finds at the earliest node at which it can be known:

- at the start of a function, its useless tags;
- at a throwing construct, what leaves a function undeclared or escapes into the global scope;
- at the end of a function, its unused declarations;
- at the start of a try, its pointless catch entries;
- at the end of a try body, the catch entries for which nothing was thrown.

A node that breaks the nesting is refused. -/

namespace ExceptionFlow

/-- A configured checker for one unit. -/
structure Checker where
  hierarchy : Hierarchy
  file : String
  options : Options
  policy : CheckedPolicy
  defaults : Defaults
  exemptions : List Exemption
  refinements : List Refinement

/-- Why a node or the end of a unit is refused. -/
inductive CheckError where
  | frameMismatch (line : Nat) (mismatch : FrameMismatch)
  | unclosedFrames (count : Nat)
  /-- A method was entered that its class, which is known, does not declare. -/
  | undeclaredMethod (owner : ClassName) (method : String)
  deriving DecidableEq

def CheckError.message : CheckError → String
  | .frameMismatch line mismatch => "line " ++ toString line ++ ": " ++ mismatch.message
  | .unclosedFrames count => toString count ++ " frame(s) still open at the end of the unit"
  | .undeclaredMethod owner method =>
    "method " ++ owner.text ++ "::" ++ method ++ " was entered but its class does not declare it"

/-- What comes of visiting a node: its diagnostics, or why it is refused. -/
abbrev Outcome := Except CheckError (List Diagnostic)

/-- The diagnostics of a node, none if it is refused. -/
def Outcome.diagnostics : Outcome → List Diagnostic
  | .ok found => found
  | .error _ => []

namespace Checker

/-- A checker with the standard refinements followed by further ones. Conflicting roots are found
    before invalid patterns. -/
def ofOptions (H : Hierarchy) (file : String) (o : Options) (further : List Refinement) :
    Except ConfigError Checker :=
  match CheckedPolicy.ofOptions o, Exemption.ofOptions o with
  | .error e, _ => .error e
  | _, .error e => .error e
  | .ok policy, .ok exemptions =>
    .ok ⟨H, file, o, policy, .ofOptions o, exemptions, Refinement.standard ++ further⟩

variable (K : Checker)

def throwModel : ThrowModel := ⟨K.hierarchy, K.defaults, K.refinements⟩

def report (line : Nat) (code : Code) (names : List ClassName) : Diagnostic :=
  ⟨K.file, line, code, names⟩

/-! ## Functions -/

/-- Whether the class of a method is known but does not declare it. -/
def isUndeclaredMethod (owner : ClassName) (method : String) : Bool :=
  (K.hierarchy.find? owner).any fun d => (d.ownMethod? method).isNone

def isExempt : Callable → Bool
  | .method owner name => Exemption.anyCovers K.exemptions K.hierarchy owner name
  | .function _ => false
  | .closure => false

/-- The useless tags of a function. -/
def uselessTags (contract : Contract) (line : Nat) : List Diagnostic :=
  (TagFinding.uselessTypes K.hierarchy contract.tags).map fun type =>
    K.report line .uselessThrows [type]

/-- The body of a function as it is entered. -/
def bodyOf (contract : Contract) : FunctionBody :=
  .enter contract.callable contract.declared (K.isExempt contract.callable)

/-- Enter a function. -/
def enterFunction (scope : Scope) (contract : Contract) (line : Nat) : Outcome × Scope :=
  let entered := scope.enterFunction (K.bodyOf contract)
  match contract.callable with
  | .method owner method =>
    if K.isUndeclaredMethod owner method then (.error (.undeclaredMethod owner method), scope)
    else (.ok (K.uselessTags contract line), entered)
  | _ => (.ok (K.uselessTags contract line), entered)

/-- The configured throw types of a function itself. -/
def ownDefaults : Callable → TypeSet
  | .method owner name => (K.defaults.method? K.hierarchy owner name).getD ∅
  | .function name => (K.defaults.function? name).getD ∅
  | .closure => ∅

/-- Whether a supertype declares the method, as an abstract one or in an interface. -/
def implementsAbstract (owner : ClassName) (method : String) : Bool :=
  ((K.hierarchy.ancestors owner).filterMap K.hierarchy.find?).any fun d =>
    (d.ownMethod? method).any fun m => m.isAbstract || d.isInterface

/-- Whether a function may declare what it does not throw because its supertypes may want it. -/
def mayDeclareFreely : Callable → Bool
  | .method owner name =>
    !K.options.reportUnusedCheckedThrowsInSubtypes && K.implementsAbstract owner name
  | _ => false

/-- The checked types that a body declares, by itself and not by configuration, without use. -/
def unusedTypes (body : FunctionBody) : TypeSet :=
  let own := K.ownDefaults body.callable
  K.policy.filterChecked K.hierarchy
    ((body.declared.difference body.used).filter fun type =>
      !own.toList.any fun d => K.hierarchy.isSameClass type d)

/-- The unused declarations of a function. -/
def unusedThrows (body : FunctionBody) (line : Nat) : List Diagnostic :=
  if body.exempt || K.mayDeclareFreely body.callable then []
  else (K.unusedTypes body).toList.map fun type => K.report line .unusedThrows [type]

/-- Leave a function. -/
def exitFunction (scope : Scope) (line : Nat) : Outcome × Scope :=
  match scope.exitFunction with
  | (.ok body, rest) => (.ok (K.unusedThrows body line), rest)
  | (.error mismatch, rest) => (.error (.frameMismatch line mismatch), rest)

/-! ## Try statements -/

/-- The diagnostic for a pointless catch entry. -/
def pointlessCatch (f : CatchFinding) : Diagnostic :=
  match f.fault with
  | .redundant => K.report f.line .redundantCatch [f.type]
  | .alreadyCaughtBy other => K.report f.line .alreadyCaught [f.type, other]
  | .unreachable earlier => K.report f.line .unreachableCatch [f.type, earlier]

/-- The clauses of a try as it is entered, with the pointless entries marked. -/
def regionOf (clauses : List CatchClause) : TryRegion :=
  (CatchFinding.ofClauses K.hierarchy clauses).foldl
    (fun region f => region.markShadowed f.clause f.entry) (.ofClauses clauses)

/-- Enter a try body. -/
def enterTry (scope : Scope) (clauses : List CatchClause) : Outcome × Scope :=
  (.ok ((CatchFinding.ofClauses K.hierarchy clauses).map K.pointlessCatch),
    scope.enterTry (K.regionOf clauses))

/-- Whether an entry is to be reported because nothing was thrown for it. -/
def isNeverThrown (e : CatchEntry) : Bool :=
  e.counter == 0 && !e.shadowed &&
    (K.hierarchy.resolve? e.type).any fun resolved =>
      K.options.reportUnusedCatchesOfUncheckedExceptions || K.policy.isChecked K.hierarchy resolved

/-- The catch entries of a try for which nothing was thrown. -/
def neverThrown (region : TryRegion) : List Diagnostic :=
  region.clauses.flatMap fun c =>
    (c.entries.filter K.isNeverThrown).map fun e => K.report c.line .neverThrown [e.type]

/-- Leave a try body. -/
def exitTry (scope : Scope) (line : Nat) : Outcome × Scope :=
  match scope.exitTry with
  | (.ok region, rest) => (.ok (K.neverThrown region), rest)
  | (.error mismatch, rest) => (.error (.frameMismatch line mismatch), rest)

/-! ## Throwing constructs -/

/-- What is reported of types that nothing accepts. -/
def escapes (residual : Residual) (line : Nat) : List Diagnostic :=
  let escaping := (K.policy.filterChecked K.hierarchy residual.undeclared).toList
  match residual.boundary with
  | .function true => []
  | .function false => escaping.map fun type => K.report line .missingThrows [type]
  | .global =>
    if K.options.reportCheckedThrowsInGlobalScope then
      escaping.map fun type => K.report line .throwInGlobalScope [type]
    else []

/-- Throw what a construct may throw. -/
def throwAt (scope : Scope) (construct : Construct) (line : Nat) : Outcome × Scope :=
  let (residual, after) := scope.record K.hierarchy (K.throwModel.infer construct)
  (.ok (K.escapes residual line), after)

/-! ## Units -/

/-- Visit a node: what comes of it, and the scope afterwards. -/
def visit (scope : Scope) (node : Node) (line : Nat) : Outcome × Scope :=
  match node with
  | .functionStart contract => K.enterFunction scope contract line
  | .functionEnd => K.exitFunction scope line
  | .tryStart clauses => K.enterTry scope clauses
  | .tryEnd => K.exitTry scope line
  | .throwing construct => K.throwAt scope construct line

/-- How far the check of a unit has come. -/
structure State where
  scope : Scope
  diagnostics : List Diagnostic

def State.start : State := ⟨.empty, []⟩

/-- Check one node. -/
def step (s : State) (node : Node) (line : Nat) : Outcome × State :=
  let (outcome, scope) := K.visit s.scope node line
  (outcome, ⟨scope, s.diagnostics ++ outcome.diagnostics⟩)

/-- Check nodes up to the first that is refused: why it is refused, if one is, and the state then.
    -/
def run (s : State) : List (Node × Nat) → Option CheckError × State
  | [] => (none, s)
  | (node, line) :: rest =>
    match K.step s node line with
    | (.ok _, next) => run next rest
    | (.error e, next) => (some e, next)

/-- Check all nodes, also after one that is refused: what comes of each, and the state at the end.
    -/
def runThrough (s : State) : List (Node × Nat) → List Outcome × State
  | [] => ([], s)
  | (node, line) :: rest =>
    let (outcome, next) := K.step s node line
    let (outcomes, last) := runThrough next rest
    (outcome :: outcomes, last)

/-- The diagnostics of a unit at its end, where no frame may be open. -/
def State.finish (s : State) : Except CheckError (List Diagnostic) :=
  if s.scope.isEmpty then .ok s.diagnostics else .error (.unclosedFrames s.scope.depth)

end Checker

end ExceptionFlow
