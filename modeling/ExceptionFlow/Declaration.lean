import ExceptionFlow.Catalog
import ExceptionFlow.TypeSet

set_option autoImplicit false

/-! # Declarations of classes, methods and functions

What is known about the code that a unit may mention. A throw annotation that is missing is kept
apart from one that lists nothing. -/

namespace ExceptionFlow

/-- A method as its class declares it. -/
structure MethodDecl where
  name : String
  /-- The annotated throw types, if there is an annotation. -/
  throws : Option TypeSet := none
  isAbstract : Bool := false

/-- The annotated throw types, none without an annotation. -/
def MethodDecl.throwTypes (m : MethodDecl) : TypeSet := m.throws.getD ∅

/-- Method names are compared without regard to ASCII case. -/
def MethodDecl.key (m : MethodDecl) : String := Symbol.caseless m.name

/-- A free function. -/
structure FunctionDecl where
  name : String
  throws : Option TypeSet := none

def FunctionDecl.throwTypes (f : FunctionDecl) : TypeSet := f.throws.getD ∅

def FunctionDecl.key (f : FunctionDecl) : String := Symbol.functionKey f.name

inductive ClassKind where
  | concrete
  | abstract
  | interface
  deriving DecidableEq

/-- A class or interface. -/
structure ClassDecl where
  name : ClassName
  kind : ClassKind
  parent : Option ClassName
  /-- Implemented interfaces, or extended ones for an interface. -/
  interfaces : List ClassName
  methods : Catalog MethodDecl.key

namespace ClassDecl

/-- A declaration without supertypes and methods. -/
def bare (name : ClassName) (kind : ClassKind) : ClassDecl := ⟨name, kind, none, [], ∅⟩

def isInterface (d : ClassDecl) : Bool := decide (d.kind = .interface)

/-- An interface may extend several others; a class has one parent, the last one given. -/
def extending (d : ClassDecl) (parent : ClassName) : ClassDecl :=
  if d.isInterface then { d with interfaces := d.interfaces ++ [parent] }
  else { d with parent := some parent }

def implementing (d : ClassDecl) (iface : ClassName) : ClassDecl :=
  { d with interfaces := d.interfaces ++ [iface] }

def declaring (d : ClassDecl) (m : MethodDecl) : ClassDecl := { d with methods := d.methods.put m }

/-- The method of that name which the class itself declares. -/
def ownMethod? (d : ClassDecl) (method : String) : Option MethodDecl :=
  d.methods.get? (Symbol.caseless method)

/-- The direct supertypes: the parent first, then the interfaces. -/
def supertypes (d : ClassDecl) : List ClassName := d.parent.toList ++ d.interfaces

end ClassDecl

end ExceptionFlow
