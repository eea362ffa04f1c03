set_option autoImplicit false

/-! # Message templates

A template is a text with numbered places in braces, counted from zero. It is filled one argument
after the other: first every place of number zero is replaced, then in the text so obtained every
place of number one, and so on. -/

namespace ExceptionFlow.Template

/-- The place of the `i`-th argument. -/
def place (i : Nat) : List Char := '{' :: Nat.toDigits 10 i ++ ['}']

/-- Replace every occurrence of `mark`, from left to right and without overlap. `skip` counts the
    characters of an occurrence that are still to be passed over. -/
def replace (mark filler : List Char) : Nat → List Char → List Char
  | _, [] => []
  | skip + 1, _ :: rest => replace mark filler skip rest
  | 0, c :: rest =>
    if mark.isPrefixOf (c :: rest) then filler ++ replace mark filler (mark.length - 1) rest
    else c :: replace mark filler 0 rest

/-- Fill the places from the `i`-th on with the arguments in turn. -/
def fillFrom (i : Nat) (text : List Char) : List String → List Char
  | [] => text
  | arg :: args => fillFrom (i + 1) (replace (place i) arg.toList 0 text) args

/-- Fill a template. -/
def fill (template : String) (args : List String) : String :=
  String.ofList (fillFrom 0 template.toList args)

end ExceptionFlow.Template
