import ExceptionFlow.Text.Blank

set_option autoImplicit false

/-! # Written symbol names

A class or function name may be written with blanks around it and with leading namespace
separators: `\Foo\Bar` and `Foo\Bar` are one name. Names are compared without regard to the case of
the ASCII letters; letters beyond ASCII keep their case. -/

namespace ExceptionFlow.Symbol

/-- A text with its ASCII letters in lower case. -/
def caseless (s : String) : String := String.ofList (s.toList.map Char.toLower)

/-- A name as it is stored: trimmed, then without its leading separators. Blanks that stand behind
    a leading separator stay. -/
def canonical (written : String) : String :=
  String.ofList ((Text.trim written.toList).dropWhile (· == '\\'))

/-- The key a function is known by. -/
def functionKey (written : String) : String := caseless (canonical written)

end ExceptionFlow.Symbol
