import ExceptionFlow.Registry

set_option autoImplicit false

/-! # The standard registry

The throwable classes, the interfaces of the iteration, counting and serialization protocols, and
the functions that the checker has rules for. -/

namespace ExceptionFlow.Registry

/-- The standard throwable classes, each with its parent. -/
def throwables : List (String × String) :=
  [("Exception", "Throwable"),
   ("Error", "Throwable"),
   ("ErrorException", "Exception"),
   ("RuntimeException", "Exception"),
   ("LogicException", "Exception"),
   ("JsonException", "Exception"),
   ("BadFunctionCallException", "LogicException"),
   ("BadMethodCallException", "BadFunctionCallException"),
   ("DomainException", "LogicException"),
   ("InvalidArgumentException", "LogicException"),
   ("LengthException", "LogicException"),
   ("OutOfRangeException", "LogicException"),
   ("OutOfBoundsException", "RuntimeException"),
   ("OverflowException", "RuntimeException"),
   ("RangeException", "RuntimeException"),
   ("UnderflowException", "RuntimeException"),
   ("UnexpectedValueException", "RuntimeException"),
   ("TypeError", "Error"),
   ("ValueError", "Error"),
   ("ArithmeticError", "Error"),
   ("AssertionError", "Error"),
   ("ArgumentCountError", "TypeError"),
   ("DivisionByZeroError", "ArithmeticError")]

/-- A throwable class has a parent and a constructor that is not annotated. -/
def throwable (name parent : String) : ClassDecl :=
  ((ClassDecl.bare ⟨name⟩ .concrete).extending ⟨parent⟩).declaring ⟨"__construct", none, false⟩

/-- An interface with the interfaces it extends and its methods, which are abstract. -/
def protocol (name : String) (extended methods : List String) : ClassDecl :=
  methods.foldl (fun d m => d.declaring ⟨m, none, true⟩)
    (extended.foldl (fun d e => d.extending ⟨e⟩) (ClassDecl.bare ⟨name⟩ .interface))

/-- The interfaces that operators and standard functions call methods of. -/
def protocols : List ClassDecl :=
  [protocol "Traversable" [] [],
   protocol "Iterator" ["Traversable"] ["current", "next", "key", "valid", "rewind"],
   protocol "IteratorAggregate" ["Traversable"] ["getIterator"],
   protocol "Countable" [] ["count"],
   protocol "JsonSerializable" [] ["jsonSerialize"]]

/-- The standard functions, none of them annotated. -/
def functionNames : List String :=
  ["count", "intdiv", "iterator_apply", "iterator_count", "iterator_to_array", "json_decode",
   "json_encode"]

/-- The registry of everything standard. -/
def standard : Registry where
  classes := Catalog.ofList
    (protocol "Throwable" [] [] :: throwables.map (fun t => throwable t.1 t.2) ++ protocols)
  functions := Catalog.ofList (functionNames.map fun name => ⟨name, none⟩)

end ExceptionFlow.Registry
