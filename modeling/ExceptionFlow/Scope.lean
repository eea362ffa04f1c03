import ExceptionFlow.Hierarchy.Interception
import ExceptionFlow.Node

set_option autoImplicit false

/-! # Scopes

The open try bodies and function bodies around a point of a unit, the innermost first. A thrown
type is offered to the try bodies from the inside out until one catches it, or until it reaches the
nearest function body; there it leaves the function and is matched with the types that the function
declares. With no function around, it escapes into the global scope. -/

namespace ExceptionFlow

/-! ## Try bodies -/

/-- A type of a catch clause, with what has been seen of it. -/
structure CatchEntry where
  type : ClassName
  /-- A counter of 32 bits, which starts again at zero when it runs over. -/
  counter : UInt32
  /-- Already reported for a reason that lies in the clauses alone. -/
  shadowed : Bool
  deriving DecidableEq

/-- How often something was thrown that the entry may intercept, as far as the counter goes. -/
def CatchEntry.observed (e : CatchEntry) : Nat := e.counter.toNat

/-- A catch clause whose try body is open. -/
structure OpenClause where
  line : Nat
  entries : List CatchEntry
  deriving DecidableEq

/-- The catch clauses of an open try body. -/
structure TryRegion where
  clauses : List OpenClause
  deriving DecidableEq

namespace TryRegion

/-- The clauses before anything was thrown. -/
def ofClauses (clauses : List CatchClause) : TryRegion :=
  ⟨clauses.map fun c => ⟨c.line, c.types.map fun type => ⟨type, 0, false⟩⟩⟩

/-- Mark an entry as reported already; nothing happens if there is no such entry. -/
def markShadowed (region : TryRegion) (clause entry : Nat) : TryRegion :=
  ⟨region.clauses.modify clause fun c =>
    { c with entries := c.entries.modify entry fun e => { e with shadowed := true } }⟩

/-- Whether some entry intercepts every value of a type. -/
def catches (H : Hierarchy) (thrown : ClassName) (region : TryRegion) : Bool :=
  region.clauses.any fun c => c.entries.any fun e => H.interception e.type thrown == .always

end TryRegion

/-- Offer a thrown type to an entry: whether it catches the type, and the entry afterwards. -/
def CatchEntry.offer (H : Hierarchy) (thrown : ClassName) (e : CatchEntry) : Bool × CatchEntry :=
  match H.interception e.type thrown with
  | .always => (true, { e with counter := e.counter + 1 })
  | .sometimes => (false, { e with counter := e.counter + 1 })
  | .never => (false, e)

/-- Offer a thrown type to all entries of a clause. -/
def OpenClause.offer (H : Hierarchy) (thrown : ClassName) (c : OpenClause) : Bool × OpenClause :=
  let offers := c.entries.map (CatchEntry.offer H thrown)
  (offers.any Prod.fst, { c with entries := offers.map Prod.snd })

/-- Offer a thrown type to clauses in their order, up to the first that catches it. -/
def offerClauses (H : Hierarchy) (thrown : ClassName) : List OpenClause → Bool × List OpenClause
  | [] => (false, [])
  | c :: rest =>
    match c.offer H thrown with
    | (true, after) => (true, after :: rest)
    | (false, after) =>
      let (caught, afterRest) := offerClauses H thrown rest
      (caught, after :: afterRest)

/-- Offer a thrown type to a try body: whether a clause catches it, and the body afterwards. -/
def TryRegion.offer (H : Hierarchy) (thrown : ClassName) (region : TryRegion) : Bool × TryRegion :=
  let (caught, clauses) := offerClauses H thrown region.clauses
  (caught, ⟨clauses⟩)

/-! ## Function bodies -/

/-- An open function body with the types it declares to throw. -/
structure FunctionBody where
  callable : Callable
  declared : TypeSet
  /-- The declared types that something thrown has matched, in the order of their first match. -/
  used : TypeSet
  /-- Whether types may leave without a declaration. -/
  exempt : Bool

namespace FunctionBody

/-- A body in which nothing was thrown yet. -/
def enter (callable : Callable) (declared : TypeSet) (exempt : Bool) : FunctionBody :=
  ⟨callable, declared, ∅, exempt⟩

/-- Match a type that leaves the body with one declared type. -/
def matchDeclared (H : Hierarchy) (thrown : ClassName) (state : Bool × TypeSet)
    (declared : ClassName) : Bool × TypeSet :=
  match H.interception declared thrown with
  | .always => (true, state.2.insert declared)
  | .sometimes => (state.1, state.2.insert declared)
  | .never => state

/-- Match a type that leaves the body with the declared types: whether one of them covers it, and
    the body afterwards. -/
def release (H : Hierarchy) (thrown : ClassName) (body : FunctionBody) : Bool × FunctionBody :=
  let (covered, used) := body.declared.toList.foldl (matchDeclared H thrown) (false, body.used)
  (covered, { body with used })

end FunctionBody

/-! ## Frames -/

inductive Frame where
  | tryBody (region : TryRegion)
  | functionBody (body : FunctionBody)

inductive FrameKind where
  | tryBody
  | functionBody
  deriving DecidableEq

def FrameKind.name : FrameKind → String
  | .tryBody => "try body"
  | .functionBody => "function body"

def Frame.kind : Frame → FrameKind
  | .tryBody _ => .tryBody
  | .functionBody _ => .functionBody

/-- The end of a body came where the innermost open frame is of another kind, or none is open. -/
structure FrameMismatch where
  expected : FrameKind
  found : Option FrameKind
  deriving DecidableEq

def FrameMismatch.message (e : FrameMismatch) : String :=
  "end of " ++ e.expected.name ++ " does not match the innermost frame (" ++
    (e.found.map FrameKind.name).getD "no open frame" ++ ")"

/-- Open frames, the innermost first. -/
structure Scope where
  frames : List Frame

/-- Where types go that nothing catches. -/
inductive Boundary where
  | function (exempt : Bool)
  | global
  deriving DecidableEq

/-- What is left of the types thrown at one place. -/
structure Residual where
  /-- The types that nothing catches and no declaration covers. -/
  undeclared : TypeSet
  boundary : Boundary

namespace Scope

def empty : Scope := ⟨[]⟩

def depth (s : Scope) : Nat := s.frames.length

def isEmpty (s : Scope) : Bool := s.frames.isEmpty

/-- Whether no function body is open. -/
def isGlobal (s : Scope) : Bool := s.frames.all fun f => f.kind != .functionBody

def enterTry (s : Scope) (region : TryRegion) : Scope := ⟨.tryBody region :: s.frames⟩

def enterFunction (s : Scope) (body : FunctionBody) : Scope := ⟨.functionBody body :: s.frames⟩

/-- Take the innermost frame off. -/
def pop (s : Scope) : Option Frame × Scope :=
  match s.frames with
  | [] => (none, s)
  | f :: rest => (some f, ⟨rest⟩)

/-- Refuse the end of a body. What was taken off for it, a frame of the other kind, is put back. -/
def mismatch (expected : FrameKind) (popped : Option Frame) (s : Scope) : FrameMismatch × Scope :=
  let found := popped.map Frame.kind
  match popped with
  | some f => (⟨expected, found⟩, ⟨f :: s.frames⟩)
  | none => (⟨expected, found⟩, s)

/-- Close the innermost frame, which must be a try body. -/
def exitTry (s : Scope) : Except FrameMismatch TryRegion × Scope :=
  match s.pop with
  | (some (.tryBody region), rest) => (.ok region, rest)
  | (popped, rest) =>
    let (e, restored) := rest.mismatch .tryBody popped
    (.error e, restored)

/-- Close the innermost frame, which must be a function body. -/
def exitFunction (s : Scope) : Except FrameMismatch FunctionBody × Scope :=
  match s.pop with
  | (some (.functionBody body), rest) => (.ok body, rest)
  | (popped, rest) =>
    let (e, restored) := rest.mismatch .functionBody popped
    (.error e, restored)

/-! ## Throwing -/

/-- Send a thrown type outward: whether it is caught or declared, and the frames afterwards. -/
def propagate (H : Hierarchy) (thrown : ClassName) : List Frame → Bool × List Frame
  | [] => (false, [])
  | .tryBody region :: rest =>
    match region.offer H thrown with
    | (true, after) => (true, .tryBody after :: rest)
    | (false, after) =>
      let (accepted, afterRest) := propagate H thrown rest
      (accepted, .tryBody after :: afterRest)
  | .functionBody body :: rest =>
    let (covered, after) := body.release H thrown
    (covered, .functionBody after :: rest)

/-- The boundary that uncaught types come to. -/
def boundary : List Frame → Boundary
  | [] => .global
  | .tryBody _ :: rest => boundary rest
  | .functionBody body :: _ => .function body.exempt

/-- Send one of several thrown types outward and collect it if nothing accepts it. -/
def recordOne (H : Hierarchy) (state : TypeSet × List Frame) (thrown : ClassName) :
    TypeSet × List Frame :=
  match propagate H thrown state.2 with
  | (true, frames) => (state.1, frames)
  | (false, frames) => (state.1.insert thrown, frames)

/-- Record that types are thrown at one place. -/
def record (H : Hierarchy) (types : TypeSet) (s : Scope) : Residual × Scope :=
  let (undeclared, frames) := types.toList.foldl (recordOne H) (∅, s.frames)
  (⟨undeclared, boundary s.frames⟩, ⟨frames⟩)

/-- Whether a try body inside the innermost function would catch every value of a type. -/
def isCaughtAhead (H : Hierarchy) (thrown : ClassName) : List Frame → Bool
  | [] => false
  | .tryBody region :: rest => region.catches H thrown || isCaughtAhead H thrown rest
  | .functionBody _ :: _ => false

end Scope

end ExceptionFlow
