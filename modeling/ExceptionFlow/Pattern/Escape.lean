import ExceptionFlow.Pattern.Basic
import ExceptionFlow.Pattern.Flags
import ExceptionFlow.Pattern.Property
import ExceptionFlow.Text.WordChar

set_option autoImplicit false

/-! # Escapes in patterns

What follows a backslash: a punctuation mark stands for itself, some letters for a character, a set
or a condition, `x`, `u` and `U` introduce a code point in hexadecimal, and `p` and `P` a property.
Digits would refer back to a group, which no pattern may do, and every other letter is refused. -/

namespace ExceptionFlow.Pattern

open Text (CharSet)

/-- What an escape stands for. -/
inductive Escape where
  | char (c : Char)
  | set (s : CharSet)
  | condition (a : Assertion)

/-- The character with a code point, which must not be a surrogate or out of range. -/
def scalar? (code : Nat) : Option Char := if code.isValidChar then some (Char.ofNat code) else none

/-- A code point of `width` hexadecimal digits, or of any number of them in braces. Two digits are a
    byte, which in ASCII mode must be an ASCII character. -/
def readCodePoint (flags : Flags) (width : Nat) (cs : List Char) : Option (Char × List Char) :=
  let codePoint (isAllowed : Char → Bool) (digits rest : List Char) : Option (Char × List Char) :=
    if digits.isEmpty then none
    else ((Text.hexValue? digits).bind scalar?).bind fun c =>
      if isAllowed c then some (c, rest) else none
  match flags.skip cs with
  | '{' :: rest =>
    (flags.readUntil '}' false rest).bind fun (digits, after) =>
      codePoint (fun _ => true) digits after
  | rest =>
    (flags.readCount width rest).bind fun (digits, after) =>
      codePoint (fun c => width != 2 || flags.unicode || decide (c.toNat < 128)) digits after

/-- Read a property after its letter: one letter, or a name in braces. -/
def readProperty (flags : Flags) (negated : Bool) (cs : List Char) :
    Option (CharSet × List Char) :=
  if !flags.unicode then none
  else
    let name := match flags.skip cs with
      | [] => none
      | '{' :: rest => flags.readUntil '}' false rest
      | c :: rest => some ([c], rest)
    name.bind fun (name, after) =>
      (property? name).bind fun s => (flags.negate? negated (flags.fold s)).map fun s => (s, after)

/-- The edges of words that have names. -/
def namedEdge? : String → Option WordEdge
  | "start" => some .start
  | "end" => some .finish
  | "start-half" => some .halfStart
  | "end-half" => some .halfFinish
  | _ => none

/-- Read what may follow `b`: an opening brace and then a letter or hyphen begin the name of an
    edge; any other brace is left alone. -/
def readWordEdge (flags : Flags) (cs : List Char) : Option (WordEdge × List Char) :=
  match cs with
  | '{' :: rest =>
    match flags.skip rest with
    | [] => none
    | c :: _ =>
      if c.isAlpha || c == '-' then
        (flags.readUntil '}' false rest).bind fun (name, after) =>
          (namedEdge? (String.ofList name)).map fun kind => (kind, after)
      else some (.edge, cs)
  | _ => some (.edge, cs)

/-- The set of a letter in either mode. -/
def Flags.letterSet? (flags : Flags) (negated : Bool) (s ascii : CharSet) : Option Escape :=
  (flags.negate? negated (if flags.unicode then s else ascii)).map .set

/-- The meaning of a letter after a backslash, other than the letters that something follows. -/
def letterEscape? (flags : Flags) : Char → Option Escape
  | 'a' => some (.char (Char.ofNat 7))
  | 'f' => some (.char (Char.ofNat 12))
  | 't' => some (.char '\t')
  | 'n' => some (.char '\n')
  | 'r' => some (.char '\r')
  | 'v' => some (.char (Char.ofNat 11))
  | 'd' => flags.letterSet? false Text.decimalNumbers (.range '0' '9')
  | 'D' => flags.letterSet? true Text.decimalNumbers (.range '0' '9')
  | 's' => flags.letterSet? false Text.blanks (.ofTable ["9-D 20"])
  | 'S' => flags.letterSet? true Text.blanks (.ofTable ["9-D 20"])
  | 'w' => flags.letterSet? false Text.wordChars Text.asciiWordChars
  | 'W' => flags.letterSet? true Text.wordChars Text.asciiWordChars
  | 'A' => some (.condition .textStart)
  | 'z' => some (.condition .textEnd)
  | 'B' => some (.condition (.word .noEdge !flags.unicode))
  | '<' => some (.condition (.word .start !flags.unicode))
  | '>' => some (.condition (.word .finish !flags.unicode))
  | _ => none

/-- The ASCII characters that stand for themselves after a backslash: all but letters, digits and
    the angle brackets. -/
def isEscapable (c : Char) : Bool :=
  decide (c.toNat < 128) && !c.isAlphanum && c != '<' && c != '>'

/-- Read an escape after its backslash. -/
def readEscape (flags : Flags) : List Char → Option (Escape × List Char)
  | [] => none
  | c :: rest =>
    match c with
    | 'x' => (readCodePoint flags 2 rest).map fun (p, after) => (.char p, after)
    | 'u' => (readCodePoint flags 4 rest).map fun (p, after) => (.char p, after)
    | 'U' => (readCodePoint flags 8 rest).map fun (p, after) => (.char p, after)
    | 'p' => (readProperty flags false rest).map fun (s, after) => (.set s, after)
    | 'P' => (readProperty flags true rest).map fun (s, after) => (.set s, after)
    | 'b' =>
      (readWordEdge flags rest).map fun (kind, after) =>
        (.condition (.word kind !flags.unicode), after)
    | _ =>
      if isEscapable c then some (.char c, rest)
      else (letterEscape? flags c).map fun e => (e, rest)

end ExceptionFlow.Pattern
