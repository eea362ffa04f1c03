import ExceptionFlow.Text.CharSet

set_option autoImplicit false

/-! # UTF-8

A character is written as one to four bytes: a leading byte, and after it bytes from 80 to BF that
carry six bits each. A range of characters is written by sequences of byte ranges, such that every
choice of one byte from each range of a sequence writes a character of the range, and each character
is written once. -/

namespace ExceptionFlow.Text

/-- An inclusive range of bytes. -/
abbrev ByteRange := Nat × Nat

/-- The bytes that write a character. -/
def utf8Bytes (c : Char) : List Nat := (String.utf8EncodeChar c).map UInt8.toNat

/-- The sequences for the numbers from `first` to `last`, written as `base` plus the high bits and
    then as many bytes of six bits each as told. Numbers with the same high bits share them; of the
    others, those at both ends that do not fill their block come apart from those between. -/
def byteSequences (base : Nat) : Nat → Nat → Nat → List (List ByteRange)
  | 0, first, last => [[(base + first, base + last)]]
  | following + 1, first, last =>
    let block := 64 ^ (following + 1)
    let low := first / block
    let high := last / block
    let within (top start stop : Nat) : List (List ByteRange) :=
      (byteSequences 0x80 following start stop).map ((base + top, base + top) :: ·)
    if low = high then within low (first % block) (last % block)
    else
      let front := if first % block = 0 then [] else within low (first % block) (block - 1)
      let back := if last % block = block - 1 then [] else within high 0 (last % block)
      let start := if front.isEmpty then low else low + 1
      let stop := if back.isEmpty then high + 1 else high
      let middle := if start < stop then
        [(base + start, base + stop - 1) :: List.replicate (following + 1) (0x80, 0xBF)] else []
      front ++ middle ++ back

/-- The forms of characters: the first and the last code point, the base of the leading byte and the
    number of bytes that follow it. -/
def utf8Forms : List (Nat × Nat × Nat × Nat) :=
  [(0, 0x7F, 0, 0), (0x80, 0x7FF, 0xC0, 1), (0x800, 0xFFFF, 0xE0, 2), (0x10000, 0x10FFFF, 0xF0, 3)]

/-- The sequences for a range of code points, in ascending order. -/
def rangeSequences (range : Nat × Nat) : List (List ByteRange) :=
  utf8Forms.flatMap fun (least, most, base, following) =>
    let first := max range.1 least
    let last := min range.2 most
    if first ≤ last then byteSequences base following first last else []

/-- The sequences for the characters of a set, in ascending order. -/
def CharSet.sequences (s : CharSet) : List (List ByteRange) := s.ranges.flatMap rangeSequences

end ExceptionFlow.Text
