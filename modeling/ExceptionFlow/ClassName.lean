import ExceptionFlow.Symbol

set_option autoImplicit false

/-! # Class names

Exception types are named classes. A name keeps the spelling it was written with; two spellings that
differ in the case of ASCII letters are different names with one key. -/

namespace ExceptionFlow

/-- The name of a class or interface, in canonical spelling. -/
structure ClassName where
  text : String
  deriving DecidableEq

namespace ClassName

/-- The name that a written text denotes. -/
def ofText (written : String) : ClassName := ⟨Symbol.canonical written⟩

/-- The key that a class is looked up by. -/
def key (name : ClassName) : String := Symbol.caseless name.text

/-- Names are ordered by the code points of their spelling. -/
instance : Ord ClassName := ⟨fun a b => compare a.text b.text⟩

end ClassName

end ExceptionFlow
