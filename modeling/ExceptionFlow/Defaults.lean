import ExceptionFlow.Hierarchy.Basic
import ExceptionFlow.Options

set_option autoImplicit false

/-! # Configured throw types

The options may state what methods and functions throw, in place of their annotations. An entry for
a method holds for the class it names and for every subtype without a closer entry. -/

namespace ExceptionFlow

/-- The throw types of a method, under the keys of its class and of its name. -/
structure MethodDefault where
  owner : String
  method : String
  types : TypeSet

def MethodDefault.key (d : MethodDefault) : String × String := (d.owner, d.method)

/-- The throw types of a function, under its key. -/
structure FunctionDefault where
  function : String
  types : TypeSet

/-- The configured throw types. -/
structure Defaults where
  methods : Catalog MethodDefault.key
  functions : Catalog FunctionDefault.function

namespace Defaults

/-- The entries that the options state for the methods of one class. -/
def methodEntries (entry : String × NameTable (List String)) : List MethodDefault :=
  entry.2.items.map fun m =>
    ⟨(ClassName.ofText entry.1).key, Symbol.caseless m.1, .ofTexts m.2⟩

/-- The throw types that the options state. Entries whose names differ in spelling only are for the
    same method or function. -/
def ofOptions (o : Options) : Defaults where
  methods := Catalog.ofList (o.methodThrowTypeDeclarations.items.flatMap methodEntries)
  functions := Catalog.ofList (o.functionThrowTypeDeclarations.items.map fun f =>
    ⟨Symbol.functionKey f.1, .ofTexts f.2⟩)

/-- The entry for a method of the very class. -/
def ownMethod? (d : Defaults) (owner : ClassName) (method : String) : Option TypeSet :=
  (d.methods.get? (owner.key, Symbol.caseless method)).map (·.types)

/-- The entry for a method of the class, or else of the first of its ancestors that has one. -/
def method? (d : Defaults) (H : Hierarchy) (owner : ClassName) (method : String) : Option TypeSet :=
  match d.ownMethod? owner method with
  | some types => some types
  | none => (H.ancestors owner).findSome? fun a => d.ownMethod? a method

def function? (d : Defaults) (name : String) : Option TypeSet :=
  (d.functions.get? (Symbol.functionKey name)).map (·.types)

end Defaults

end ExceptionFlow
