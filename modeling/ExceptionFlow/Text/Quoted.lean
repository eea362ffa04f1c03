import ExceptionFlow.Text.Recent

set_option autoImplicit false

/-! # Quoted text

A text between double quotes, with everything in it that would not show escaped by a backslash. A
single quote needs no escape. -/

namespace ExceptionFlow.Text

/-- A character inside quotes. What has no short escape is written as its code point in
    hexadecimal. -/
def quotedChar (c : Char) : List Char :=
  if c = '"' then ['\\', '"']
  else if c = '\\' then ['\\', '\\']
  else if c = '\n' then ['\\', 'n']
  else if c = '\t' then ['\\', 't']
  else if c = '\r' then ['\\', 'r']
  else if c.toNat = 0 then ['\\', '0']
  else if isUnprintable c then ['\\', 'u', '{'] ++ Nat.toDigits 16 c.toNat ++ ['}']
  else [c]

def quoted (s : String) : String := String.ofList ('"' :: s.toList.flatMap quotedChar ++ ['"'])

end ExceptionFlow.Text
