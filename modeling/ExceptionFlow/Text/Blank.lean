import ExceptionFlow.Text.CharSet

set_option autoImplicit false

/-! # Blank characters

Blank means the Unicode property White_Space. It covers the no-break and typographic spaces and the
line and paragraph separators; it leaves out the zero-width space, the byte order mark and the
information separators U+001C to U+001F. Trimming removes blanks at both ends of a text. -/

namespace ExceptionFlow.Text

/-- The characters with White_Space. -/
def blanks : CharSet :=
  ⟨[(0x9, 0xD), (0x20, 0x20), (0x85, 0x85), (0xA0, 0xA0), (0x1680, 0x1680), (0x2000, 0x200A),
    (0x2028, 0x2029), (0x202F, 0x202F), (0x205F, 0x205F), (0x3000, 0x3000)]⟩

def isBlank (c : Char) : Bool := blanks.contains c

/-- A text without the blanks at its two ends. -/
def trim (cs : List Char) : List Char :=
  ((cs.dropWhile isBlank).reverse.dropWhile isBlank).reverse

/-- Whether a text has nothing but blanks in it. -/
def isBlankText (s : String) : Bool := (trim s.toList).isEmpty

end ExceptionFlow.Text
