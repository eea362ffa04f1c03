import ExceptionFlow.Text.Hexadecimal

set_option autoImplicit false

/-! # Tokens of the options text

Options are written in JSON. No option takes a number or a null, so a text that holds one is no
options text, and there are no tokens for them. -/

namespace ExceptionFlow.Options

inductive Token where
  | openObject
  | closeObject
  | openArray
  | closeArray
  | colon
  | comma
  | bool (value : Bool)
  | text (chars : List Char)

/-- The character of a short escape. -/
def shortEscape? : Char → Option Char
  | '"' => some '"'
  | '\\' => some '\\'
  | '/' => some '/'
  | 'b' => some (Char.ofNat 8)
  | 'f' => some (Char.ofNat 12)
  | 'n' => some '\n'
  | 'r' => some '\r'
  | 't' => some '\t'
  | _ => none

/-- Read a numbered character after `\u`. A high surrogate must be followed by a low one, with which
    it makes one character, and a low surrogate must not stand alone. -/
def readUnits : List Char → Option (Char × List Char)
  | a :: b :: c :: d :: rest =>
    match Text.hexValue? [a, b, c, d] with
    | none => none
    | some high =>
      if high < 0xD800 ∨ 0xE000 ≤ high then some (Char.ofNat high, rest)
      else if 0xDC00 ≤ high then none
      else
        match rest with
        | '\\' :: 'u' :: e :: f :: g :: h :: after =>
          match Text.hexValue? [e, f, g, h] with
          | none => none
          | some low =>
            if 0xDC00 ≤ low ∧ low < 0xE000 then
              some (Char.ofNat (0x10000 + (high - 0xD800) * 0x400 + (low - 0xDC00)), after)
            else none
        | _ => none
  | _ => none

/-- Read a text after its opening quote, which must hold no control character. Every turn takes a
    character, so the length of the rest is fuel enough. -/
def readText : Nat → List Char → Option (List Char × List Char)
  | 0, _ => none
  | fuel + 1, cs =>
    match cs with
    | [] => none
    | '"' :: rest => some ([], rest)
    | '\\' :: 'u' :: rest =>
      (readUnits rest).bind fun (c, after) =>
        (readText fuel after).map fun (chars, left) => (c :: chars, left)
    | '\\' :: e :: rest =>
      (shortEscape? e).bind fun c =>
        (readText fuel rest).map fun (chars, left) => (c :: chars, left)
    | c :: rest =>
      if c.toNat < 0x20 ∨ c = '\\' then none
      else (readText fuel rest).map fun (chars, left) => (c :: chars, left)

/-- The four blanks that may stand between tokens. -/
def isSpacing (c : Char) : Bool := c == ' ' || c == '\t' || c == '\n' || c == '\r'

/-- Read one token. -/
def readToken (cs : List Char) : Option (Token × List Char) :=
  match cs with
  | '{' :: rest => some (.openObject, rest)
  | '}' :: rest => some (.closeObject, rest)
  | '[' :: rest => some (.openArray, rest)
  | ']' :: rest => some (.closeArray, rest)
  | ':' :: rest => some (.colon, rest)
  | ',' :: rest => some (.comma, rest)
  | 't' :: 'r' :: 'u' :: 'e' :: rest => some (.bool true, rest)
  | 'f' :: 'a' :: 'l' :: 's' :: 'e' :: rest => some (.bool false, rest)
  | '"' :: rest =>
    (readText (rest.length + 1) rest).map fun (chars, after) => (.text chars, after)
  | _ => none

/-- Read all tokens of a text. Each takes a character at least, so the length of the text is fuel
    enough. -/
def readTokens (fuel : Nat) (cs : List Char) : Option (List Token) :=
  match fuel, cs.dropWhile isSpacing with
  | _, [] => some []
  | 0, _ => none
  | fuel + 1, cs =>
    (readToken cs).bind fun (token, rest) => (readTokens fuel rest).map (token :: ·)

/-- The tokens of a text, if it is made of tokens and blanks. -/
def tokens? (text : String) : Option (List Token) := readTokens text.length text.toList

end ExceptionFlow.Options
