import ExceptionFlow.Pattern.Basic
import ExceptionFlow.Text.WordChar

set_option autoImplicit false

/-! # Matching

Whether a pattern occurs in a text is decided by carrying a set of positions through it: from the
positions where an occurrence may begin to those where it may end. A set of positions is a number
with one bit for each. A repetition adds positions round by round; since a text has one position
more than characters, rounds beyond that number reach nothing that fewer rounds would not. -/

namespace ExceptionFlow.Pattern

/-! ## Conditions -/

namespace Assertion

/-- The character before a position. -/
def before? (text : Array Char) (i : Nat) : Option Char := if i = 0 then none else text[i - 1]?

/-- Whether a line starts before the `i`-th character. -/
def startsLine (text : Array Char) (i : Nat) : LineEnding → Bool
  | .lineFeed => i == 0 || before? text i == some '\n'
  | .anyReturn =>
    i == 0 || before? text i == some '\n'
      || (before? text i == some '\r' && text[i]? != some '\n')

/-- Whether a line ends before the `i`-th character. -/
def endsLine (text : Array Char) (i : Nat) : LineEnding → Bool
  | .lineFeed => i == text.size || text[i]? == some '\n'
  | .anyReturn =>
    i == text.size || text[i]? == some '\r'
      || (text[i]? == some '\n' && before? text i != some '\r')

/-- Whether the condition is met before the `i`-th character. -/
def holdsAt (text : Array Char) (i : Nat) : Assertion → Bool
  | .textStart => i == 0
  | .textEnd => i == text.size
  | .lineStart ending => startsLine text i ending
  | .lineEnd ending => endsLine text i ending
  | .word kind ascii =>
    let isWord := if ascii then Text.isAsciiWordChar else Text.isWordChar
    kind.lies ((before? text i).any isWord) ((text[i]?).any isWord)

end Assertion

/-! ## Sets of positions -/

/-- A set of positions in a text, the bit `i` standing for the position before the `i`-th
    character. -/
abbrev Positions := Nat

/-- The positions below `n` with a property. -/
def Positions.ofTest (n : Nat) (p : Nat → Bool) : Positions :=
  (List.range n).foldl (fun set i => if p i then set ||| (1 <<< i) else set) 0

/-- What a pattern makes of positions where it may begin: the positions where it may end. -/
structure Passage where
  run : Positions → Positions

namespace Passage

def stay : Passage := ⟨id⟩

def block : Passage := ⟨fun _ => 0⟩

/-- Over one character, from the positions of `here`. -/
def step (here : Positions) : Passage := ⟨fun start => (start &&& here) <<< 1⟩

/-- Only where the position is one of `here`. -/
def only (here : Positions) : Passage := ⟨fun start => start &&& here⟩

def andThen (a b : Passage) : Passage := ⟨fun start => b.run (a.run start)⟩

def orElse (a b : Passage) : Passage := ⟨fun start => a.run start ||| b.run start⟩

/-- Exactly `n` rounds, cut short when a round changes nothing. -/
def exactly (round : Positions → Positions) : Nat → Positions → Positions
  | 0, start => start
  | n + 1, start =>
    let next := round start
    if next = start then start else exactly round n next

/-- Any number of rounds up to `n` from positions of which `fresh` are yet to be tried, cut short
    when a round adds nothing. -/
def upTo (round : Positions → Positions) : Nat → Positions → Positions → Positions
  | 0, reached, _ => reached
  | n + 1, reached, fresh =>
    let added := (reached ||| round fresh) ^^^ reached
    if added = 0 then reached else upTo round n (reached ||| added) added

/-- At least `least` and at most `most` rounds in a text with `places` positions. -/
def rounds (places : Nat) (a : Passage) (least : Nat) (most : Option Nat) : Passage :=
  let extra := match most with
    | none => places
    | some most => min (most - least) places
  ⟨fun start =>
    let enough := exactly a.run (min least places) start
    upTo a.run extra enough enough⟩

end Passage

/-! ## Patterns on a text -/

namespace Expr

mutual

/-- What the pattern makes of positions in a text. -/
def passage (text : Array Char) : Expr → Passage
  | .empty => .stay
  | .literal chars =>
    chars.foldl (fun before c =>
      before.andThen (.step (.ofTest text.size fun i => text[i]? == some c))) .stay
  | .one set => .step (.ofTest text.size fun i => (text[i]?).any set.contains)
  | .assert condition => .only (.ofTest (text.size + 1) fun i => condition.holdsAt text i)
  | .times p least most _ => (p.passage text).rounds (text.size + 1) least most
  | .group _ p => p.passage text
  | .seq ps => passageThrough text ps
  | .alt ps => passageOfAny text ps

def passageThrough (text : Array Char) : List Expr → Passage
  | [] => .stay
  | p :: ps => (p.passage text).andThen (passageThrough text ps)

def passageOfAny (text : Array Char) : List Expr → Passage
  | [] => .block
  | p :: ps => (p.passage text).orElse (passageOfAny text ps)

end

/-- Whether the pattern occurs anywhere in the text. -/
def occursIn (p : Expr) (text : String) : Bool :=
  let chars := text.toList.toArray
  (p.passage chars).run (.ofTest (chars.size + 1) fun _ => true) != 0

end Expr

end ExceptionFlow.Pattern
