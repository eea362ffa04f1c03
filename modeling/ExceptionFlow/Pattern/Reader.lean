import ExceptionFlow.Pattern.Bracket
import ExceptionFlow.Pattern.Size
import ExceptionFlow.Text.Recent

set_option autoImplicit false

/-! # Reading patterns

A pattern is read from left to right with a stack of open groups. A text that is no pattern is
refused: groups and sets must be closed, a repetition needs something to repeat, group names are
unique, and there is no look-around and no reference back. So is a pattern that is nested too deeply
or whose automaton would be too large. -/

namespace ExceptionFlow.Pattern

open Text (CharSet)

/-! ## Parts of the grammar -/

/-- What an opening parenthesis begins. -/
inductive Opening where
  | group (flags : Flags) (numbered : Bool) (name : Option String)
  | switch (flags : Flags)

/-- Read switches up to the colon or parenthesis that ends them. `seen` holds what was read so far,
    the last first; nothing may occur twice, and a minus must not come last. -/
def readFlags (seen : List Char) (on : Bool) (flags : Flags) :
    List Char → Option (Opening × List Char)
  | [] => none
  | c :: rest =>
    if c = ':' then
      if seen.head? = some '-' then none else some (.group flags false none, rest)
    else if c = ')' then
      if seen.isEmpty || seen.head? = some '-' then none else some (.switch flags, rest)
    else if seen.contains c then none
    else if c = '-' then readFlags (c :: seen) false flags rest
    else
      match flags.set? c on with
      | none => none
      | some set => readFlags (c :: seen) on set rest

/-- Whether a character may stand in a group name. -/
def isNameChar (first : Bool) (c : Char) : Bool :=
  if first then c == '_' || Text.currentAlphabetic.contains c
  else c == '_' || c == '.' || c == '[' || c == ']' || Text.currentAlphanumeric.contains c

/-- Read a group name up to its closing angle bracket. -/
def readGroupName (cs : List Char) : Option (String × List Char) :=
  match cs.takeWhile (· != '>'), cs.dropWhile (· != '>') with
  | first :: more, _ :: rest =>
    if isNameChar true first && more.all (isNameChar false) then
      some (String.ofList (first :: more), rest)
    else none
  | _, _ => none

/-- Read what follows an opening parenthesis. -/
def readOpening (flags : Flags) (cs : List Char) : Option (Opening × List Char) :=
  match flags.skip cs with
  | '?' :: '=' :: _ => none
  | '?' :: '!' :: _ => none
  | '?' :: '<' :: '=' :: _ => none
  | '?' :: '<' :: '!' :: _ => none
  | '?' :: 'P' :: '<' :: rest =>
    (readGroupName rest).map fun (name, after) => (.group flags true (some name), after)
  | '?' :: '<' :: rest =>
    (readGroupName rest).map fun (name, after) => (.group flags true (some name), after)
  | '?' :: rest => readFlags [] true flags rest
  | rest => some (.group flags true none, rest)

/-- Read a decimal number below 2^32 with blanks around it. -/
def readDecimal (flags : Flags) (cs : List Char) : Option Nat × List Char :=
  let (digits, rest) := flags.readWhile Char.isDigit false (cs.dropWhile Text.isBlank)
  let value := digits.foldl (fun (n : Nat) c => 10 * n + (c.toNat - 48)) 0
  (if digits.isEmpty || decide (4294967296 ≤ value) then none else some value,
    rest.dropWhile Text.isBlank)

/-- Read the bounds of a counted repetition after its opening brace. -/
def readBounds (flags : Flags) (cs : List Char) : Option ((Nat × Option Nat) × List Char) :=
  match readDecimal flags (flags.skip cs) with
  | (some least, '}' :: rest) => some ((least, some least), rest)
  | (some least, ',' :: more) =>
    match flags.skip more with
    | '}' :: rest => some ((least, none), rest)
    | more =>
      match readDecimal flags more with
      | (some most, '}' :: rest) => if least ≤ most then some ((least, some most), rest) else none
      | _ => none
  | _ => none

/-! ## Assembly -/

/-- A part of a pattern and how deep it is nested. A switch is a part that stands for nothing and
    cannot be repeated. -/
structure Part where
  pattern? : Option Expr
  depth : Nat

/-- The depth of parts side by side, which are a level of their own if there are two or more. -/
def depthOf (depths : List Nat) : Nat :=
  let deepest := depths.foldl max 0
  if depths.length < 2 then deepest else deepest + 1

/-- An open group: the branches that a bar has ended, the first first, and the parts of the current
    branch, the last first. -/
structure Level where
  flags : Flags
  number : Option Nat := none
  branches : List (Expr × Nat) := []
  parts : List Part := []

namespace Level

def push (l : Level) (p : Expr) (depth : Nat) : Level :=
  { l with parts := ⟨some p, depth⟩ :: l.parts }

def pushSet (l : Level) (s : CharSet) (depth : Nat) : Level := l.push (.ofSet s) depth

def pushChar (l : Level) (c : Char) : Level := l.pushSet (l.flags.fold (.single c)) 0

/-- The current branch. -/
def branch (l : Level) : Expr × Nat :=
  (.sequence (l.parts.reverse.filterMap (·.pattern?)), depthOf (l.parts.map (·.depth)))

/-- End the current branch at a bar. -/
def nextBranch (l : Level) : Level := { l with branches := l.branches ++ [l.branch], parts := [] }

/-- All branches as one pattern. -/
def pattern (l : Level) : Expr × Nat :=
  let all := l.branches ++ [l.branch]
  match l.branches with
  | [] => l.branch
  | _ => (.choice (all.map (·.1)), depthOf (all.map (·.2)))

/-- The group that its closing parenthesis completes, as a part of the level around it. -/
def asPart (l : Level) : Part :=
  let (p, depth) := l.pattern
  match l.number with
  | none => ⟨some p, depth + 1⟩
  | some index => ⟨some (.group index p), depth + 1⟩

/-- Repeat the last part, if there is one that can be repeated. -/
def repeatLast? (l : Level) (least : Nat) (most : Option Nat) (greedy : Bool) : Option Level :=
  match l.parts with
  | ⟨some p, depth⟩ :: rest =>
    let q := p.repeated least most (greedy != l.flags.swapGreed)
    some { l with parts := ⟨some q, depth + 1⟩ :: rest }
  | _ => none

end Level

/-- The state of reading: the innermost group, those around it, the group names in use and the
    number of numbered groups so far. -/
structure Assembly where
  current : Level
  outer : List Level
  names : List String
  groups : Nat

namespace Assembly

def start : Assembly := ⟨{ flags := {} }, [], [], 0⟩

def modify (a : Assembly) (f : Level → Level) : Assembly := { a with current := f a.current }

/-- Begin a group or set switches. -/
def openWith? (a : Assembly) : Opening → Option Assembly
  | .switch flags => some (a.modify fun l => { l with flags, parts := ⟨none, 0⟩ :: l.parts })
  | .group flags numbered name =>
    if name.any a.names.contains then none
    else
      let groups := if numbered then a.groups + 1 else a.groups
      let level : Level := { flags, number := if numbered then some groups else none }
      some ⟨level, a.current :: a.outer, name.toList ++ a.names, groups⟩

/-- End the innermost group. -/
def close? (a : Assembly) : Option Assembly :=
  match a.outer with
  | [] => none
  | enclosing :: more =>
    let level := { enclosing with parts := a.current.asPart :: enclosing.parts }
    some { a with current := level, outer := more }

/-- How deeply a pattern may be nested. -/
def depthLimit : Nat := 250

/-- The pattern that has been read, if no group is left open and the limits are kept. -/
def finish? (a : Assembly) : Option Expr :=
  let (p, depth) := a.current.pattern
  if a.outer.isEmpty && decide (depth ≤ depthLimit) && p.isAffordable then some p else none

/-- Repeat the last part. A question mark after a repetition makes it prefer fewer rounds. -/
def repeated? (a : Assembly) (least : Nat) (most : Option Nat) (rest : List Char) :
    Option (Assembly × List Char) :=
  let (greedy, after) := match rest with
    | '?' :: after => (false, after)
    | _ => (true, rest)
  (a.current.repeatLast? least most greedy).map fun l => ({ a with current := l }, after)

/-- Any character but those that end a line. -/
def anyButLineEnds (flags : Flags) : CharSet :=
  if flags.anyReturn then (CharSet.ofChars ['\n', '\r']).compl else (CharSet.single '\n').compl

/-- Read one element of a pattern, which begins with the character `c`. -/
def readElement (a : Assembly) (c : Char) (rest : List Char) : Option (Assembly × List Char) :=
  let flags := a.current.flags
  let ending : LineEnding := if flags.anyReturn then .anyReturn else .lineFeed
  match c with
  | '(' => (readOpening flags rest).bind fun (o, after) => (a.openWith? o).map fun b => (b, after)
  | ')' => a.close?.map fun b => (b, rest)
  | '|' => some (a.modify Level.nextBranch, rest)
  | '[' => (readSet flags rest).map fun (s, after) => (a.modify (·.pushSet s.set s.depth), after)
  | '?' => a.repeated? 0 (some 1) rest
  | '*' => a.repeated? 0 none rest
  | '+' => a.repeated? 1 none rest
  | '{' =>
    (readBounds flags rest).bind fun ((least, most), after) =>
      a.repeated? least most (flags.skip after)
  | '\\' =>
    (readEscape flags rest).map fun (e, after) =>
      match e with
      | .char p => (a.modify (·.pushChar p), after)
      | .set s => (a.modify (·.pushSet s 0), after)
      | .condition k => (a.modify (·.push (.assert k) 0), after)
  | '.' =>
    if flags.unicode then
      let set : CharSet := if flags.dotAll then .all else anyButLineEnds flags
      some (a.modify (·.pushSet set 0), rest)
    else none
  | '^' =>
    let condition : Assertion := if flags.multiLine then .lineStart ending else .textStart
    some (a.modify (·.push (.assert condition) 0), rest)
  | '$' =>
    let condition : Assertion := if flags.multiLine then .lineEnd ending else .textEnd
    some (a.modify (·.push (.assert condition) 0), rest)
  | _ => some (a.modify (·.pushChar c), rest)

/-- Read elements to the end of the text. Each takes a character at least, so the length of the text
    is fuel enough. -/
def readAll : Nat → Assembly → List Char → Option Expr
  | fuel, a, cs =>
    match fuel, a.current.flags.skip cs with
    | _, [] => a.finish?
    | 0, _ :: _ => none
    | fuel + 1, c :: rest =>
      match a.readElement c rest with
      | none => none
      | some (b, after) => readAll fuel b after

end Assembly

/-- The pattern that a text writes, if it writes one. -/
def Expr.ofText? (text : String) : Option Expr :=
  Assembly.readAll text.length .start text.toList

end ExceptionFlow.Pattern
