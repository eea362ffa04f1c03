import ExceptionFlow.Pattern.Escape

set_option autoImplicit false

/-! # Bracketed sets in patterns

A set in brackets lists characters, ranges and escapes, and may hold further sets, named sets such
as `[:alpha:]`, and the operators `&&` for intersection, `--` for difference and `~~` for symmetric
difference, which take all that stands on their left. A closing bracket that comes first is a
member, so that no set is written empty. -/

namespace ExceptionFlow.Pattern

open Text (CharSet)

inductive SetOperator where
  | intersection
  | difference
  | symmetricDifference

def SetOperator.apply : SetOperator → CharSet → CharSet → CharSet
  | .intersection => CharSet.inter
  | .difference => CharSet.difference
  | .symmetricDifference => CharSet.symmetricDifference

/-- A set, or a part of one, and how deep it is nested. -/
structure Nested where
  set : CharSet
  depth : Nat

/-- A set whose closing bracket has not been read. -/
structure OpenSet where
  negated : Bool
  /-- The operator that waits for its right side, with its left side. -/
  pending : Option (SetOperator × Nested) := none
  /-- What has been listed since the bracket or the last operator. -/
  items : List Nested := []

namespace OpenSet

def add (s : OpenSet) (item : Nested) : OpenSet := { s with items := item :: s.items }

def addChar (s : OpenSet) (c : Char) : OpenSet := s.add ⟨.single c, 0⟩

/-- What has been listed, as one part. A list of two items or more is a level of its own. -/
def listed (s : OpenSet) : Nested :=
  let deepest := (s.items.map (·.depth)).foldl max 0
  ⟨.unionAll (s.items.map (·.set)), if s.items.length < 2 then deepest else deepest + 1⟩

/-- What has been read, without the negation. An operator is a level of its own. -/
def body (flags : Flags) (s : OpenSet) : Nested :=
  match s.pending with
  | none => s.listed
  | some (op, left) =>
    ⟨op.apply (flags.fold left.set) (flags.fold s.listed.set), max left.depth s.listed.depth + 1⟩

/-- The set that the closing bracket completes. -/
def close? (flags : Flags) (s : OpenSet) : Option Nested :=
  let body := s.body flags
  (flags.negate? s.negated (flags.fold body.set)).map fun set => ⟨set, body.depth + 1⟩

/-- All that has been read becomes the left side of an operator. -/
def operate (flags : Flags) (s : OpenSet) (op : SetOperator) : OpenSet :=
  { s with pending := some (op, s.body flags), items := [] }

end OpenSet

/-- Read what may stand only at the start of a set, after the opening bracket: the negation, hyphens
    that are members, and a closing bracket that is a member. -/
def readSetStart (flags : Flags) (cs : List Char) : OpenSet × List Char :=
  let (negated, cs) := match flags.skip cs with
    | '^' :: rest => (true, rest)
    | rest => (false, rest)
  let (hyphens, rest) := flags.readWhile (· == '-') false cs
  let start := hyphens.foldl OpenSet.addChar ⟨negated, none, []⟩
  match hyphens, rest with
  | [], ']' :: more => (start.addChar ']', more)
  | _, _ => (start, rest)

/-- The sets that have names. -/
def namedSet? : String → Option CharSet
  | "alnum" => some (.ofTable ["30-39 41-5A 61-7A"])
  | "alpha" => some (.ofTable ["41-5A 61-7A"])
  | "ascii" => some (.ofTable ["0-7F"])
  | "blank" => some (.ofTable ["9 20"])
  | "cntrl" => some (.ofTable ["0-1F 7F"])
  | "digit" => some (.ofTable ["30-39"])
  | "graph" => some (.ofTable ["21-7E"])
  | "lower" => some (.ofTable ["61-7A"])
  | "print" => some (.ofTable ["20-7E"])
  | "punct" => some (.ofTable ["21-2F 3A-40 5B-60 7B-7E"])
  | "space" => some (.ofTable ["9-D 20"])
  | "upper" => some (.ofTable ["41-5A"])
  | "word" => some Text.asciiWordChars
  | "xdigit" => some (.ofTable ["30-39 41-46 61-66"])
  | _ => none

/-- Read the name of a set after its opening bracket, and whether it is negated. Whatever is no
    named set is left alone. -/
def readNamedSet? : List Char → Option (Bool × CharSet × List Char)
  | ':' :: rest =>
    let (negated, rest) := match rest with
      | '^' :: more => (true, more)
      | _ => (false, rest)
    match rest.dropWhile (· != ':') with
    | ':' :: ']' :: after =>
      (namedSet? (String.ofList (rest.takeWhile (· != ':')))).map fun s => (negated, s, after)
    | _ => none
  | _ => none

/-- A member of a set: a character or an escape. In ASCII mode, a character must be ASCII. -/
def readMember (flags : Flags) (cs : List Char) : Option (Escape × List Char) :=
  let member := match cs with
    | [] => none
    | '\\' :: rest => readEscape flags rest
    | c :: rest => some (.char c, rest)
  match member with
  | some (.char c, _) => if flags.unicode || decide (c.toNat < 128) then member else none
  | _ => member

/-- The character that decides what a hyphen means, given what follows the hyphen. Where blanks are
    skipped, so is the sign of a comment, but not the comment. -/
def afterHyphen? (flags : Flags) (cs : List Char) : Option Char :=
  if !flags.free then cs.head?
  else
    match cs.dropWhile Text.isBlank with
    | '#' :: rest => (rest.dropWhile Text.isBlank).head?
    | rest => rest.head?

/-- Read a member or a range. A hyphen makes a range unless a closing bracket or another hyphen
    follows it. -/
def readMemberOrRange (flags : Flags) (cs : List Char) : Option (CharSet × List Char) :=
  match readMember flags cs with
  | none => none
  | some (first, rest) =>
    let rest := flags.skip rest
    let alone : Option (CharSet × List Char) := match first with
      | .char c => some (.single c, rest)
      | .set s => some (s, rest)
      | .condition _ => none
    match rest with
    | '-' :: more =>
      if afterHyphen? flags more == some ']' || afterHyphen? flags more == some '-' then alone
      else
        match first, readMember flags (flags.skip more) with
        | .char lo, some (.char hi, after) => if lo ≤ hi then some (.range lo hi, after) else none
        | _, _ => none
    | _ => alone

/-- Read up to the bracket that closes the outermost open set. Every turn takes a character, so the
    length of the text is fuel enough. -/
def readSetFrom (flags : Flags) :
    Nat → List Char → OpenSet → List OpenSet → Option (Nested × List Char)
  | 0, _, _, _ => none
  | fuel + 1, cs, current, outer =>
    match flags.skip cs with
    | [] => none
    | ']' :: rest =>
      match current.close? flags, outer with
      | none, _ => none
      | some closed, [] => some (closed, rest)
      | some closed, enclosing :: more => readSetFrom flags fuel rest (enclosing.add closed) more
    | '[' :: rest =>
      match readNamedSet? rest with
      | some (negated, s, after) =>
        match flags.negate? negated (flags.fold s) with
        | none => none
        | some s => readSetFrom flags fuel after (current.add ⟨s, 0⟩) outer
      | none =>
        let (inner, after) := readSetStart flags rest
        readSetFrom flags fuel after inner (current :: outer)
    | '&' :: '&' :: rest =>
      readSetFrom flags fuel rest (current.operate flags .intersection) outer
    | '-' :: '-' :: rest =>
      readSetFrom flags fuel rest (current.operate flags .difference) outer
    | '~' :: '~' :: rest =>
      readSetFrom flags fuel rest (current.operate flags .symmetricDifference) outer
    | rest =>
      match readMemberOrRange flags rest with
      | none => none
      | some (item, after) => readSetFrom flags fuel after (current.add ⟨item, 0⟩) outer

/-- Read a set after its opening bracket. -/
def readSet (flags : Flags) (cs : List Char) : Option (Nested × List Char) :=
  let (start, rest) := readSetStart flags cs
  readSetFrom flags (cs.length + 1) rest start []

end ExceptionFlow.Pattern
