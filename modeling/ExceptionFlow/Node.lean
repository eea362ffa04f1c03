import ExceptionFlow.StaticType
import ExceptionFlow.TypeSet

set_option autoImplicit false

/-! # Nodes

A unit is checked as the sequence of its relevant nodes in document order. The starts and ends of
function bodies and of try bodies bracket what lies in them. -/

namespace ExceptionFlow

/-! ## Functions and their contracts -/

/-- What a function body belongs to. -/
inductive Callable where
  | function (name : String)
  | method (owner : ClassName) (name : String)
  /-- A function without a name. -/
  | closure
  deriving DecidableEq

/-- A tag that declares a thrown type, as it is written. -/
structure ThrowsTag where
  typeText : String
  description : Option String := none
  deriving DecidableEq

def ThrowsTag.type (tag : ThrowsTag) : ClassName := .ofText tag.typeText

/-- Whether the tag says something about the type. -/
def ThrowsTag.isDescribed (tag : ThrowsTag) : Bool :=
  tag.description.any fun text => !Text.isBlankText text

/-- A function with the types that it declares to throw. -/
structure Contract where
  callable : Callable
  /-- The tags in written order. -/
  tags : List ThrowsTag
  deriving DecidableEq

/-- The declared types, each spelling once. -/
def Contract.declared (c : Contract) : TypeSet := .ofList (c.tags.map ThrowsTag.type)

/-! ## Throwing constructs -/

/-- A clause that catches several types. -/
structure CatchClause where
  types : List ClassName
  line : Nat
  deriving DecidableEq

/-- What can throw, with what is known about the operands that matter. -/
inductive Construct where
  | throw (value : StaticType)
  | methodCall (receiver : StaticType) (method : String)
  | staticCall (owner : ClassName) (method : String)
  | new (owner : ClassName)
  /-- A division or a remainder. -/
  | division (divisor : StaticType)
  /-- A shift in either direction. -/
  | shift (amount : StaticType)
  /-- A loop over the elements of a value, which may ask for their keys. -/
  | iteration (subject : StaticType) (bindsKey : Bool)
  | call (name : String) (args : List StaticType)

/-- A visited node. -/
inductive Node where
  | functionStart (contract : Contract)
  | functionEnd
  | tryStart (clauses : List CatchClause)
  /-- The end of the protected body; the clauses come after it. -/
  | tryEnd
  | throwing (construct : Construct)

/-- Throwing a new instance of a class. -/
def Node.throwNew (name : ClassName) : Node := .throwing (.throw (.object name))

end ExceptionFlow
