import ExceptionFlow.Text.Property

set_option autoImplicit false

/-! # Word characters

A word character is a letter, mark, decimal digit or connector of any script: the Unicode properties
Alphabetic, Mark, Decimal_Number, Connector_Punctuation and Join_Control together. -/

namespace ExceptionFlow.Text

def wordChars : CharSet :=
  .unionAll [alphabetic, marks, decimalNumbers, connectorPunctuation, joinControls]

def isWordChar (c : Char) : Bool := wordChars.contains c

/-- The word characters of ASCII: letters, digits and the underscore. -/
def asciiWordChars : CharSet := .ofTable ["30-39 41-5A 5F 61-7A"]

def isAsciiWordChar (c : Char) : Bool := asciiWordChars.contains c

end ExceptionFlow.Text
