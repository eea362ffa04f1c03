import ExceptionFlow.Text.Hexadecimal

set_option autoImplicit false

/-! # Sets of characters

A set of characters is kept as inclusive ranges of code points, ascending, with a gap between any
two. Surrogates are no characters, so no range that an operation makes holds one. A property of
characters that no formula describes is written down as text and read once. -/

namespace ExceptionFlow.Text

/-- A set of characters as ranges of code points. -/
structure CharSet where
  ranges : List (Nat × Nat)
  deriving DecidableEq

namespace CharSet

def empty : CharSet := ⟨[]⟩

def isEmpty (s : CharSet) : Bool := s.ranges.isEmpty

/-- Whether some range holds the code point. -/
def hasCode (s : CharSet) (code : Nat) : Bool :=
  s.ranges.any fun range => decide (range.1 ≤ code) && decide (code ≤ range.2)

def contains (s : CharSet) (c : Char) : Bool := s.hasCode c.toNat

theorem contains_iff (s : CharSet) (c : Char) :
    s.contains c = true ↔ ∃ range ∈ s.ranges, range.1 ≤ c.toNat ∧ c.toNat ≤ range.2 := by
  simp [contains, hasCode]

/-! ## Construction -/

/-- The parts of a range that hold characters: those below and above the surrogates. -/
def scalarParts (range : Nat × Nat) : List (Nat × Nat) :=
  [(range.1, min range.2 0xD7FF), (max range.1 0xE000, min range.2 0x10FFFF)].filter fun part =>
    decide (part.1 ≤ part.2)

/-- Put a range in front of ranges none of which starts below it, and join what touches. -/
def joinFront (range : Nat × Nat) : List (Nat × Nat) → List (Nat × Nat)
  | [] => [range]
  | next :: rest =>
    if next.1 ≤ range.2 + 1 then joinFront (range.1, max range.2 next.2) rest
    else range :: next :: rest

/-- The set of ranges that come in ascending order of their starts. -/
def ofAscending (ranges : List (Nat × Nat)) : CharSet := ⟨ranges.foldr joinFront []⟩

/-- The set of ranges in any order. -/
def ofRanges (ranges : List (Nat × Nat)) : CharSet :=
  ofAscending ((ranges.flatMap scalarParts).mergeSort fun a b => decide (a.1 ≤ b.1))

/-- The characters from `first` to `last`, both included. -/
def range (first last : Char) : CharSet := ofRanges [(first.toNat, last.toNat)]

def ofChars (cs : List Char) : CharSet := ofRanges (cs.map fun c => (c.toNat, c.toNat))

def single (c : Char) : CharSet := ofChars [c]

/-! ## Operations -/

def union (s t : CharSet) : CharSet :=
  ofAscending (s.ranges.merge t.ranges fun a b => decide (a.1 ≤ b.1))

def unionAll (sets : List CharSet) : CharSet := sets.foldl union empty

/-- What lies between ascending ranges, from `start` on. -/
def gaps (start : Nat) : List (Nat × Nat) → List (Nat × Nat)
  | [] => [(start, 0x10FFFF)]
  | range :: rest =>
    if start < range.1 then (start, range.1 - 1) :: gaps (range.2 + 1) rest
    else gaps (range.2 + 1) rest

def compl (s : CharSet) : CharSet := ⟨(gaps 0 s.ranges).flatMap scalarParts⟩

def difference (s t : CharSet) : CharSet := (s.compl.union t).compl

def inter (s t : CharSet) : CharSet := s.difference t.compl

def symmetricDifference (s t : CharSet) : CharSet := (s.difference t).union (t.difference s)

/-- Every character. -/
def all : CharSet := empty.compl

/-- Whether the set has no character beyond ASCII. -/
def isAscii (s : CharSet) : Bool := s.ranges.all fun range => decide (range.2 < 128)

/-- The only member of a set, if it has just one. -/
def only? (s : CharSet) : Option Char :=
  match s.ranges with
  | [(first, last)] => if first = last then some (Char.ofNat first) else none
  | _ => none

/-! ## Tables -/

/-- The ranges that one entry of a table stands for. `41-5A` is a range, `AA` is one code point, and
    `100~12E` is every second code point of a range. -/
def entryRanges (entry : String) : List (Nat × Nat) :=
  let digits := entry.toList.takeWhile fun c => c != '-' && c != '~'
  let first := (hexValue? digits).getD 0
  match entry.toList.drop digits.length with
  | [] => [(first, first)]
  | mark :: more =>
    let last := (hexValue? more).getD 0
    if mark = '-' then [(first, last)]
    else (List.range ((last - first) / 2 + 1)).map fun i => (first + 2 * i, first + 2 * i)

/-- The set that a table describes, given as lines of entries with spaces between them. -/
def ofTable (lines : List String) : CharSet :=
  ofRanges (lines.flatMap fun line => (line.splitOn " ").flatMap entryRanges)

end CharSet

end ExceptionFlow.Text
