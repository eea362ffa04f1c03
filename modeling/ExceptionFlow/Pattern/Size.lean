import ExceptionFlow.Pattern.Automaton
import ExceptionFlow.Pattern.Basic

set_option autoImplicit false

/-! # The size of a pattern

Counted repetitions multiply the states of an automaton, so a short pattern may need a large one. A
pattern is refused when one of its two automata outgrows the limit. -/

namespace ExceptionFlow.Pattern

/-- How a part of an automaton is made. -/
structure Construction where
  run : Tally → Tally

namespace Construction

def andThen (a b : Construction) : Construction := ⟨fun t => b.run (a.run t)⟩

/-- Rounds of a construction, given up when the limit is passed. -/
def rounds (make : Tally → Tally) : Nat → Tally → Tally
  | 0, t => t
  | n + 1, t => if t.isOver then t else rounds make n (make t)

/-- A part exactly `n` times. -/
def exactly (a : Construction) (n : Nat) (t : Tally) : Tally :=
  if n = 0 then t.plain else rounds a.run n t

/-- A repetition of a part. `takes` tells that the part always takes a character, so that going
    round again cannot run in place. -/
def repeated (a : Construction) (takes : Bool) (least : Nat) : Option Nat → Construction
  | none => ⟨fun t =>
    if 0 < least then (a.exactly least t).free 2
    else if takes then a.run (t.free 2)
    else (((a.run t).free 2).free 2).plain⟩
  | some most => ⟨fun t =>
    if least = 0 ∧ most = 1 then (a.run (t.free 2)).plain
    else if least = most then a.exactly least t
    else rounds (fun t => a.run (t.free 2)) (most - least) (a.exactly least t).plain⟩

end Construction

namespace Expr

/-! ## Properties that decide the construction -/

/-- The smaller of two lengths, if both are known. -/
def shorter? (a b : Option Nat) : Option Nat := a.bind fun m => b.map (min m)

mutual

/-- The length of the shortest match, in characters. A set without members has none, and what
    depends on one has none either. -/
def leastLength? : Expr → Option Nat
  | .empty => some 0
  | .literal chars => some chars.length
  | .one set => if set.isEmpty then none else some 1
  | .assert _ => some 0
  | .times p least _ _ => p.leastLength?.map (· * least)
  | .group _ p => p.leastLength?
  | .seq ps => leastSum? ps
  | .alt [] => none
  | .alt (p :: ps) => leastOf? p.leastLength? ps

def leastSum? : List Expr → Option Nat
  | [] => some 0
  | p :: ps => p.leastLength?.bind fun m => (leastSum? ps).map (m + ·)

def leastOf? (bound : Option Nat) : List Expr → Option Nat
  | [] => bound
  | p :: ps => leastOf? (shorter? bound p.leastLength?) ps

end

/-- Whether every match takes a character. -/
def takesText (p : Expr) : Bool := p.leastLength?.any (0 < ·)

mutual

/-- Whether every match begins with the condition. -/
def beginsWith (condition : Assertion) : Expr → Bool
  | .assert a => a == condition
  | .times p least _ _ => decide (0 < least) && p.beginsWith condition
  | .group _ p => p.beginsWith condition
  | .seq ps => someBegins condition ps
  | .alt ps => allBegin condition ps
  | _ => false

/-- Whether the condition is among those that stand before the first character of a sequence. -/
def someBegins (condition : Assertion) : List Expr → Bool
  | [] => false
  | p :: ps => p.beginsWith condition || (p.isVoid && someBegins condition ps)

def allBegin (condition : Assertion) : List Expr → Bool
  | [] => true
  | p :: ps => p.beginsWith condition && allBegin condition ps

end

mutual

/-- Whether every match ends with the condition. -/
def endsWith (condition : Assertion) : Expr → Bool
  | .assert a => a == condition
  | .times p least _ _ => decide (0 < least) && p.endsWith condition
  | .group _ p => p.endsWith condition
  | .seq ps => someEnds condition ps
  | .alt ps => allEnd condition ps
  | _ => false

/-- Whether the condition is among those that stand after the last character of a sequence. -/
def someEnds (condition : Assertion) : List Expr → Bool
  | [] => false
  | p :: ps => someEnds condition ps || (allVoid ps && p.endsWith condition)

def allEnd (condition : Assertion) : List Expr → Bool
  | [] => true
  | p :: ps => p.endsWith condition && allEnd condition ps

end

/-- The literals that all branches of a choice are, if they are. -/
def literals? : List Expr → Option (List (List Char))
  | [] => some []
  | .literal chars :: ps => (literals? ps).map (chars :: ·)
  | _ :: _ => none

/-! ## Construction -/

mutual

/-- How the part that reads a pattern is made. What is read first is made first; the branches of a
    choice are made before the states that join them once there are two. -/
def construction (direction : Direction) : Expr → Construction
  | .empty => ⟨Tally.plain⟩
  | .literal chars =>
    let length := (chars.flatMap Text.utf8Bytes).length
    ⟨Tally.plains length⟩
  | .one set => ⟨charPart direction set⟩
  | .assert _ => ⟨Tally.plain⟩
  | .times p least most _ => (p.construction direction).repeated p.takesText least most
  | .group _ p =>
    let inner := p.construction direction
    match direction with
    | .forwards => ⟨fun t => (inner.run t.plain).plain⟩
    | .backwards => inner
  | .seq ps => constructionOfAll direction ps
  | .alt ps =>
    match literals? ps with
    | some literals => ⟨literalsPart direction literals⟩
    | none => constructionOfAny direction ps.length 0 ps

def constructionOfAll (direction : Direction) : List Expr → Construction
  | [] => ⟨id⟩
  | p :: ps =>
    let first := p.construction direction
    let others := constructionOfAll direction ps
    match direction with
    | .forwards => first.andThen others
    | .backwards => others.andThen first

/-- The branches of a choice, of which there are `branches` in all and `made` have been made. -/
def constructionOfAny (direction : Direction) (branches made : Nat) : List Expr → Construction
  | [] => ⟨id⟩
  | p :: ps =>
    let first := p.construction direction
    let others := constructionOfAny direction branches (made + 1) ps
    if made = 1 then ⟨fun t => others.run (((first.run t).free branches).plain)⟩
    else first.andThen others

end

/-- Make the part before a pattern. A pattern that is held at the end of the text from which it is
    read has nothing to skip. -/
def skipPart (held : Bool) (t : Tally) : Tally :=
  if held then t.plain else ((t.free 2).plain).byByte 1

/-- The automaton that reads the pattern anywhere in a text. Forwards, two states more mark where
    the match begins and ends. -/
def automaton (p : Expr) : Direction → Tally
  | .forwards =>
    let start := (skipPart (p.beginsWith .textStart) {}).plain
    (((p.construction .forwards).run start).plain).plain
  | .backwards =>
    let start := skipPart (p.endsWith .textEnd) {}
    ((p.construction .backwards).run start).plain

/-- Whether neither automaton is too large. -/
def isAffordable (p : Expr) : Bool :=
  !(p.automaton .backwards).isOver && !(p.automaton .forwards).isOver

end Expr

end ExceptionFlow.Pattern
