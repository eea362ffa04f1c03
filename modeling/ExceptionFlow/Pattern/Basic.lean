import ExceptionFlow.Text.CharSet

set_option autoImplicit false

/-! # Patterns

A pattern describes texts. It is put together by functions that simplify as they go: what is empty
drops out, neighbouring characters become one literal, a choice among characters becomes a set, and
a choice among sequences that begin alike is made after their common beginning. -/

namespace ExceptionFlow.Pattern

open Text (CharSet)

/-! ## Conditions on positions -/

/-- What ends a line. -/
inductive LineEnding where
  | lineFeed
  /-- A line feed, a carriage return, or both as one. -/
  | anyReturn
  deriving DecidableEq

/-- How a position lies to the words around it. -/
inductive WordEdge where
  /-- Between a word character and none. -/
  | edge
  | noEdge
  | start
  | finish
  /-- After no word character. -/
  | halfStart
  /-- Before no word character. -/
  | halfFinish
  deriving DecidableEq

/-- Whether the characters before and after a position, of which it is known whether they are word
    characters, make it such an edge. -/
def WordEdge.lies (before after : Bool) : WordEdge → Bool
  | .edge => before != after
  | .noEdge => before == after
  | .start => !before && after
  | .finish => before && !after
  | .halfStart => !before
  | .halfFinish => !after

/-- A condition on a position in a text. -/
inductive Assertion where
  | textStart
  | textEnd
  | lineStart (ending : LineEnding)
  | lineEnd (ending : LineEnding)
  /-- An edge of words, which are made of ASCII characters only if so asked. -/
  | word (kind : WordEdge) (ascii : Bool)
  deriving DecidableEq

/-! ## Expressions -/

/-- A pattern. -/
inductive Expr where
  | empty
  /-- These characters in a row; there is one at least. -/
  | literal (chars : List Char)
  | one (set : CharSet)
  | assert (condition : Assertion)
  /-- At least `least` and at most `most` times, if `most` is given. -/
  | times (p : Expr) (least : Nat) (most : Option Nat) (greedy : Bool)
  /-- A numbered group. -/
  | group (index : Nat) (p : Expr)
  | seq (ps : List Expr)
  | alt (ps : List Expr)

namespace Expr

mutual

/-- Whether two patterns are written alike. -/
def same : Expr → Expr → Bool
  | .empty, .empty => true
  | .literal a, .literal b => a == b
  | .one s, .one t => s == t
  | .assert a, .assert b => a == b
  | .times p least most greedy, .times q least' most' greedy' =>
    p.same q && least == least' && most == most' && greedy == greedy'
  | .group i p, .group j q => i == j && p.same q
  | .seq ps, .seq qs => sameAll ps qs
  | .alt ps, .alt qs => sameAll ps qs
  | _, _ => false

def sameAll : List Expr → List Expr → Bool
  | [], [] => true
  | p :: ps, q :: qs => p.same q && sameAll ps qs
  | _, _ => false

end

mutual

/-- Whether the pattern matches nothing but the empty text. -/
def isVoid : Expr → Bool
  | .empty => true
  | .literal _ => false
  | .one _ => false
  | .assert _ => true
  | .times p _ _ _ => p.isVoid
  | .group _ p => p.isVoid
  | .seq ps => allVoid ps
  | .alt ps => allVoid ps

def allVoid : List Expr → Bool
  | [] => true
  | p :: ps => p.isVoid && allVoid ps

end

/-! ## Simplifying constructors -/

/-- One character of a set. A set of one character is a literal. -/
def ofSet (set : CharSet) : Expr :=
  match set.only? with
  | some c => .literal [c]
  | none => .one set

/-- A repetition. What matches only the empty text is not repeated, as once is as good. -/
def repeated (p : Expr) (least : Nat) (most : Option Nat) (greedy : Bool) : Expr :=
  let (least, most) := if p.isVoid then (min least 1, some (min (most.getD 1) 1)) else (least, most)
  if least = 0 ∧ most = some 0 then .empty
  else if least = 1 ∧ most = some 1 then p
  else .times p least most greedy

/-- Join each literal with those that follow it. -/
def joinLiterals : List Expr → List Expr
  | [] => []
  | p :: rest =>
    match p, joinLiterals rest with
    | .literal a, .literal b :: more => .literal (a ++ b) :: more
    | p, more => p :: more

/-- The parts of a pattern as parts of a sequence. -/
def sequenceParts : Expr → List Expr
  | .empty => []
  | .seq ps => ps
  | p => [p]

/-- One pattern after the other. -/
def sequence (ps : List Expr) : Expr :=
  match joinLiterals (ps.flatMap sequenceParts) with
  | [] => .empty
  | [p] => p
  | parts => .seq parts

/-- The parts of a pattern as branches of a choice. -/
def branches : Expr → List Expr
  | .alt ps => ps
  | p => [p]

def onlyChar? : Expr → Option Char
  | .literal [c] => some c
  | _ => none

def onlySet? : Expr → Option CharSet
  | .one set => some set
  | _ => none

/-- A choice that is made among all branches at once. -/
def plainChoice (ps : List Expr) : Expr :=
  match ps.flatMap branches with
  | [] => .one .empty
  | [p] => p
  | branches =>
    match branches.mapM onlyChar?, branches.mapM onlySet? with
    | some chars, _ => ofSet (.ofChars chars)
    | _, some sets => ofSet (.unionAll sets)
    | _, _ => .alt branches

/-- How many parts two sequences share at their beginnings. -/
def sharedLength : List Expr → List Expr → Nat
  | p :: ps, q :: qs => if p.same q then sharedLength ps qs + 1 else 0
  | _, _ => 0

def isSequence : Expr → Bool
  | .seq _ => true
  | _ => false

/-- One of several patterns. When all branches are sequences that begin alike, the common beginning
    comes first and the choice is made after it. -/
def choice (ps : List Expr) : Expr :=
  match plainChoice ps with
  | .alt (first :: others) =>
    let shared := (others.map fun p => sharedLength first.sequenceParts p.sequenceParts).foldl min
      first.sequenceParts.length
    if shared = 0 || !(first :: others).all isSequence then .alt (first :: others)
    else
      let rests := (first :: others).map fun p => sequence (p.sequenceParts.drop shared)
      sequence (first.sequenceParts.take shared ++ [plainChoice rests])
  | p => p

end Expr

end ExceptionFlow.Pattern
