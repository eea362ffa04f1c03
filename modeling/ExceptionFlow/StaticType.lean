import ExceptionFlow.ClassName

set_option autoImplicit false

/-! # Static types of operands

The type of an operand, as far as it is known before the program runs: a union, possibly nested, of
atoms. Two questions are asked of it: which classes the value may be an instance of, and which
integers it may be. -/

namespace ExceptionFlow

/-- An inclusive range of integers; a missing end is open. A range with its ends swapped is empty.
    -/
structure Interval where
  least : Option Int64
  greatest : Option Int64
  deriving DecidableEq

namespace Interval

def contains (r : Interval) (v : Int64) : Bool :=
  r.least.all (fun least => decide (least ≤ v)) &&
    r.greatest.all (fun greatest => decide (v ≤ greatest))

/-- Whether the range starts below zero. Its upper end is not looked at. -/
def startsNegative (r : Interval) : Bool := r.least.all fun least => decide (least < 0)

end Interval

/-- A type that is no union. -/
inductive Atom where
  /-- Nothing is known about the value. -/
  | mixed
  /-- There is no value. -/
  | never
  | null
  | bool
  | boolConst (value : Bool)
  | string
  | float
  | array
  /-- An integer of which nothing more is known. -/
  | int
  | intConst (value : Int64)
  | intRange (range : Interval)
  /-- An instance of the named class or interface. -/
  | object (name : ClassName)
  deriving DecidableEq

/-- The static type of a value. -/
inductive StaticType where
  | atom (atom : Atom)
  | union (members : List StaticType)

namespace StaticType

mutual
/-- The atoms of a type in written order, nested unions flattened. -/
def members : StaticType → List Atom
  | .atom a => [a]
  | .union ts => membersAll ts
/-- The atoms of several types, one type after the other. -/
def membersAll : List StaticType → List Atom
  | [] => []
  | t :: ts => t.members ++ membersAll ts
end

def object (name : ClassName) : StaticType := .atom (.object name)

/-- The union of integer constants. -/
def ints (values : List Int64) : StaticType := .union (values.map fun v => .atom (.intConst v))

end StaticType

/-- The class that an atom names. -/
def Atom.className? : Atom → Option ClassName
  | .object name => some name
  | _ => none

/-- Append a value unless it is there already. -/
def appendNew {α : Type} [DecidableEq α] (known : List α) (value : α) : List α :=
  if value ∈ known then known else known ++ [value]

/-- The classes a value may be an instance of, in written order, each spelling once. -/
def StaticType.classNames (t : StaticType) : List ClassName :=
  (t.members.filterMap Atom.className?).foldl appendNew []

/-! ## Integer values -/

/-- The integers that an operand may be: known constants, known ranges, and whether an alternative
    remains that may be any integer. -/
structure IntValues where
  constants : List Int64
  ranges : List Interval
  residual : Bool
  deriving DecidableEq

namespace IntValues

def none : IntValues := ⟨[], [], false⟩

/-- The values with those of one more atom. Whatever is neither an integer nor impossible may be
    converted to any integer. -/
def addAtom (values : IntValues) : Atom → IntValues
  | .never => values
  | .intConst v => { values with constants := appendNew values.constants v }
  | .intRange r => { values with ranges := values.ranges ++ [r] }
  | _ => { values with residual := true }

def mayBe (values : IntValues) (v : Int64) : Bool :=
  values.residual || decide (v ∈ values.constants) || values.ranges.any (·.contains v)

def mayBeNegative (values : IntValues) : Bool :=
  values.residual || values.constants.any (fun v => decide (v < 0)) ||
    values.ranges.any Interval.startsNegative

end IntValues

/-- The integers that a value of the type may be. -/
def StaticType.intValues (t : StaticType) : IntValues := t.members.foldl .addAtom .none

end ExceptionFlow
