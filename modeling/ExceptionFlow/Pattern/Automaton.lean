import ExceptionFlow.Text.Utf8
import Std.Data.HashMap

set_option autoImplicit false

/-! # The construction of automata

A pattern stands for two automata over bytes, one that reads a text forwards and one that reads it
backwards. What matters here is how large they become, so a construction does not keep the states
that it makes; it counts them. States are numbered in the order in which they are made.

Every state takes 32 bytes. One that branches by the next byte takes 8 more for each range of bytes,
and one that branches freely takes 4 more for each branch. -/

namespace ExceptionFlow.Pattern

open Text (CharSet ByteRange)

inductive Direction where
  | forwards
  | backwards
  deriving DecidableEq

/-- The states made so far: how many they are, and how many bytes they take. -/
structure Tally where
  states : Nat := 0
  bytes : Nat := 0

namespace Tally

/-- The size that an automaton must not exceed, ten mebibytes. -/
def limit : Nat := 10 * 1024 * 1024

def isOver (t : Tally) : Bool := decide (limit < t.bytes)

/-- A state that goes on to one other state. -/
def plain (t : Tally) : Tally := ⟨t.states + 1, t.bytes + 32⟩

/-- A state that branches by the next byte. -/
def byByte (ranges : Nat) (t : Tally) : Tally := ⟨t.states + 1, t.bytes + 32 + 8 * ranges⟩

/-- A state that branches freely. -/
def free (branches : Nat) (t : Tally) : Tally := ⟨t.states + 1, t.bytes + 32 + 4 * branches⟩

/-- As many states that go on to one other state as told. -/
def plains (n : Nat) (t : Tally) : Tally := ⟨t.states + n, t.bytes + 32 * n⟩

end Tally

/-! ## Remembered states -/

/-- States that may be used again, by what they do. There is a fixed number of slots, and a state
    displaces the one that had its slot, so that remembering takes no time that grows. -/
structure Memory where
  slots : Nat
  entries : Std.HashMap Nat (List Nat × Nat) := {}

namespace Memory

/-- The slot of a key: the key's numbers mixed in turn into a word of 64 bits. -/
def slot (m : Memory) (key : List Nat) : Nat :=
  (key.foldl (fun (mixed : UInt64) n => (mixed ^^^ n.toUInt64) * 1099511628211)
    14695981039346656037).toNat % m.slots

/-- The number of the state with a key, if it is remembered. -/
def find? (m : Memory) (key : List Nat) : Option Nat :=
  match m.entries[m.slot key]? with
  | some (known, state) => if known = key then some state else none
  | none => none

def store (m : Memory) (key : List Nat) (state : Nat) : Memory :=
  { m with entries := m.entries.insert (m.slot key) (key, state) }

end Memory

/-- A construction that remembers states. -/
structure Workshop where
  tally : Tally
  memory : Memory

/-- The state with a key, which is made only if it is not remembered. -/
def Workshop.obtain (w : Workshop) (key : List Nat) (make : Tally → Tally) : Nat × Workshop :=
  match w.memory.find? key with
  | some state => (state, w)
  | none =>
    let state := w.tally.states
    (state, ⟨make w.tally, w.memory.store key state⟩)

/-! ## Sets -/

/-- Gather neighbouring sequences that begin alike, without their beginnings. -/
def gatherSequence (sequence : List ByteRange) (groups : List (ByteRange × List (List ByteRange))) :
    List (ByteRange × List (List ByteRange)) :=
  match sequence, groups with
  | [], _ => groups
  | first :: rest, (start, tails) :: more =>
    if first = start then (start, (rest :: tails)) :: more
    else (first, [rest]) :: (start, tails) :: more
  | first :: rest, [] => [(first, [rest])]

/-- Sequences by their first ranges. -/
def byStart (sequences : List (List ByteRange)) : List (ByteRange × List (List ByteRange)) :=
  sequences.foldr gatherSequence []

/-- The state that reads one of the sequences forwards and goes on to `target`. No sequence is
    longer than `depth`. The states after it are made first. -/
def forwardState (target : Nat) : Nat → List (List ByteRange) → Workshop → Nat × Workshop
  | 0, _, w => (target, w)
  | depth + 1, sequences, w =>
    let (key, w) := (byStart sequences).foldl (fun (key, w) (range, tails) =>
      let (next, w) := if tails = [[]] then (target, w) else forwardState target depth tails w
      (key ++ [range.1, range.2, next], w)) (([] : List Nat), w)
    w.obtain key (·.byByte (key.length / 3))

/-- The states that read a sequence backwards: each reads one range, the first of them last. -/
def backwardStates (target : Nat) (sequence : List ByteRange) (w : Workshop) : Workshop :=
  (sequence.foldl (fun (next, w) range =>
    Workshop.obtain w [next, range.1, range.2] Tally.plain) (target, w)).2

/-- Make the part that reads one character of a set that is written by the given sequences. -/
def setPart (direction : Direction) (sequences : List (List ByteRange)) (t : Tally) : Tally :=
  match direction with
  | .forwards => (forwardState t.states 4 sequences ⟨t.plain, { slots := 10000 }⟩).2.tally
  | .backwards =>
    let start := (t.free sequences.length).plain
    (sequences.foldl (fun w sequence => backwardStates (t.states + 1) sequence w)
      ⟨start, { slots := 1000 }⟩).tally

/-- Make the part that reads one character of a set. In ASCII a character is a byte. -/
def charPart (direction : Direction) (set : CharSet) : Tally → Tally :=
  if set.isAscii then fun t => t.plain.byByte set.ranges.length
  else setPart direction set.sequences

/-! ## Choices among literals -/

/-- The bytes of a literal in the order in which they are read. -/
def literalBytes (direction : Direction) (chars : List Char) : List Nat :=
  let bytes := chars.flatMap Text.utf8Bytes
  match direction with
  | .forwards => bytes
  | .backwards => bytes.reverse

/-- Add the rest of a word to the branch of its first byte. -/
def addToBranch (byte : Nat) (rest : List Nat) :
    List (Nat × List (List Nat)) → List (Nat × List (List Nat))
  | [] => [(byte, [rest])]
  | (b, rests) :: more =>
    if b = byte then (b, rests ++ [rest]) :: more else (b, rests) :: addToBranch byte rest more

/-- The branches of words by their first bytes. A word that ends here separates the words before it
    from those after it, as the earlier choice comes first. -/
def wordBranches (words : List (List Nat)) : List (List (Nat × List (List Nat))) :=
  words.foldl (fun runs word =>
    match word, runs with
    | [], _ => [] :: runs
    | byte :: rest, run :: earlier => addToBranch byte rest run :: earlier
    | byte :: rest, [] => [addToBranch byte rest []]) [[]]

/-- Make the tree that reads one of several words, none longer than `depth`. -/
def wordTree : Nat → List (List Nat) → Tally → Tally
  | 0, _, t => t
  | depth + 1, words, t =>
    let later := words.dropWhile (·.isEmpty)
    let ended := (if later.length < words.length then 1 else 0) + later.countP (·.isEmpty)
    let runs := (wordBranches later).filter (!·.isEmpty)
    let makeRun (t : Tally) (run : List (Nat × List (List Nat))) : Tally :=
      let t := run.foldl (fun t branch =>
        if branch.2.all (·.isEmpty) then t else wordTree depth branch.2 t) t
      if run.length = 1 then t.plain else t.byByte run.length
    (runs.foldl makeRun t).free (runs.length + ended)

/-- Make the part that reads one of several literals. -/
def literalsPart (direction : Direction) (literals : List (List Char)) : Tally → Tally :=
  let words := literals.map (literalBytes direction)
  let depth := (words.map List.length).foldl max 0
  fun t => wordTree depth words t.plain

end ExceptionFlow.Pattern
