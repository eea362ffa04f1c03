import ExceptionFlow.Hierarchy.Basic

set_option autoImplicit false

/-! # Registries

A registry lists classes and functions, one for each key, and is a hierarchy by itself. With an
alias table it is another: an alias stands for the class registered under its target, and targets
are not looked up as aliases again. -/

namespace ExceptionFlow

/-- The key of a class declaration. -/
def ClassDecl.key (d : ClassDecl) : String := d.name.key

/-- Registered classes and functions. -/
structure Registry where
  classes : Catalog ClassDecl.key
  functions : Catalog FunctionDecl.key

/-- One name that stands for another. -/
structure Alias where
  name : ClassName
  target : ClassName

def Alias.key (a : Alias) : String := a.name.key

namespace Registry

def empty : Registry := ⟨∅, ∅⟩

/-- Register a class, in place of the one with its key. -/
def addClass (r : Registry) (d : ClassDecl) : Registry := { r with classes := r.classes.put d }

/-- Register a function, in place of the one with its key. -/
def addFunction (r : Registry) (f : FunctionDecl) : Registry :=
  { r with functions := r.functions.put f }

def class? (r : Registry) (name : ClassName) : Option ClassDecl := r.classes.get? name.key

def function? (r : Registry) (name : String) : Option FunctionDecl :=
  r.functions.get? (Symbol.functionKey name)

/-- The hierarchy of the registered classes. -/
def hierarchy (r : Registry) : Hierarchy where
  find? := r.class?
  findFunction? := r.function?
  declared := r.classes.items
  mem_declared := Catalog.mem_of_get?

/-- The class that a name stands for under an alias table. -/
def aliasedClass? (r : Registry) (aliases : Catalog Alias.key) (name : ClassName) :
    Option ClassDecl :=
  match aliases.get? name.key with
  | some a => r.class? a.target
  | none => r.class? name

/-- The hierarchy in which aliases stand for registered classes. -/
def aliasedHierarchy (r : Registry) (aliases : Catalog Alias.key) : Hierarchy where
  find? := r.aliasedClass? aliases
  findFunction? := r.function?
  declared := r.classes.items
  mem_declared := by
    intro name d h
    unfold aliasedClass? at h
    split at h <;> exact Catalog.mem_of_get? h

end Registry

end ExceptionFlow
