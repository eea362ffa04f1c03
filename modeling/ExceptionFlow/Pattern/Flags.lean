import ExceptionFlow.Text.Blank
import ExceptionFlow.Text.CaseFold

set_option autoImplicit false

/-! # Switches

A pattern may set switches for the rest of a group or for a group of its own. They change how the
text of the pattern is read and what its parts stand for. -/

namespace ExceptionFlow.Pattern

open Text (CharSet)

structure Flags where
  ignoreCase : Bool := false
  /-- Let `^` and `$` match at line ends too. -/
  multiLine : Bool := false
  /-- Let `.` match at line ends too. -/
  dotAll : Bool := false
  /-- Repetitions prefer fewer rounds unless a question mark follows. -/
  swapGreed : Bool := false
  /-- Words, digits, blanks and case go beyond ASCII, and sets may be negated. -/
  unicode : Bool := true
  /-- A carriage return ends a line too. -/
  anyReturn : Bool := false
  /-- Blanks and comments in the text of the pattern are skipped. -/
  free : Bool := false

namespace Flags

/-- Turn a switch on or off by its letter. -/
def set? (flags : Flags) (letter : Char) (on : Bool) : Option Flags :=
  match letter with
  | 'i' => some { flags with ignoreCase := on }
  | 'm' => some { flags with multiLine := on }
  | 's' => some { flags with dotAll := on }
  | 'U' => some { flags with swapGreed := on }
  | 'u' => some { flags with unicode := on }
  | 'R' => some { flags with anyReturn := on }
  | 'x' => some { flags with free := on }
  | _ => none

/-- A set without regard to case, if case is to be ignored. -/
def fold (flags : Flags) (s : CharSet) : CharSet :=
  if !flags.ignoreCase then s else if flags.unicode then s.anyCase else s.anyAsciiCase

/-- A set or its negation. In ASCII no set is negated, since a negation goes beyond it. -/
def negate? (flags : Flags) (negated : Bool) (s : CharSet) : Option CharSet :=
  if !negated then some s else if flags.unicode then some s.compl else none

end Flags

/-! ## Blanks and comments -/

/-- Skip blanks and comments, which go from a number sign to the end of the line. -/
def skipComments : (inside : Bool) → List Char → List Char
  | _, [] => []
  | true, c :: rest => skipComments (c != '\n') rest
  | false, c :: rest =>
    if Text.isBlank c then skipComments false rest
    else if c = '#' then skipComments true rest
    else c :: rest

/-- Skip what does not count between two parts of a pattern. -/
def Flags.skip (flags : Flags) (cs : List Char) : List Char :=
  if flags.free then skipComments false cs else cs

/-- Read characters up to `stop`, leaving out what does not count. `stop` itself is read too. -/
def Flags.readUntil (flags : Flags) (stop : Char) :
    (inside : Bool) → List Char → Option (List Char × List Char)
  | _, [] => none
  | true, c :: rest => flags.readUntil stop (c != '\n') rest
  | false, c :: rest =>
    if c = stop then some ([], rest)
    else if flags.free && Text.isBlank c then flags.readUntil stop false rest
    else if flags.free && c == '#' then flags.readUntil stop true rest
    else (flags.readUntil stop false rest).map fun (cs, after) => (c :: cs, after)

/-- Read as many of one kind of character as there are, leaving out what does not count. -/
def Flags.readWhile (flags : Flags) (p : Char → Bool) :
    (inside : Bool) → List Char → List Char × List Char
  | _, [] => ([], [])
  | true, c :: rest => flags.readWhile p (c != '\n') rest
  | false, c :: rest =>
    if p c then
      let (cs, after) := flags.readWhile p false rest
      (c :: cs, after)
    else if flags.free && Text.isBlank c then flags.readWhile p false rest
    else if flags.free && c == '#' then flags.readWhile p true rest
    else ([], c :: rest)

/-- Read `n` characters, leaving out what does not count. -/
def Flags.readCount (flags : Flags) : Nat → List Char → Option (List Char × List Char)
  | 0, cs => some ([], cs)
  | n + 1, cs =>
    match flags.skip cs with
    | [] => none
    | c :: rest => (flags.readCount n rest).map fun (cs, after) => (c :: cs, after)

end ExceptionFlow.Pattern
