import ExceptionFlow.ClassName
import ExceptionFlow.Diagnostic.Template

set_option autoImplicit false

/-! # Diagnostics

A diagnostic reports a fault at a line of a file. Its code says which fault, and the classes it
names fill the message of that code. -/

namespace ExceptionFlow

/-- The faults that are reported. -/
inductive Code where
  | missingThrows
  | unusedThrows
  | uselessThrows
  | throwInGlobalScope
  | alreadyCaught
  | redundantCatch
  | unreachableCatch
  | neverThrown
  deriving DecidableEq

namespace Code

/-- All codes, in the order of the message table. -/
def all : List Code :=
  [missingThrows, unusedThrows, uselessThrows, throwInGlobalScope, alreadyCaught, redundantCatch,
   unreachableCatch, neverThrown]

def number : Code → Nat
  | missingThrows => 1001
  | unusedThrows => 1002
  | uselessThrows => 1003
  | throwInGlobalScope => 1004
  | alreadyCaught => 1101
  | redundantCatch => 1102
  | unreachableCatch => 1103
  | neverThrown => 1104

def template : Code → String
  | missingThrows => "Missing @throws \x7b0\x7d annotation"
  | unusedThrows => "Unused @throws \x7b0\x7d annotation"
  | uselessThrows => "Useless @throws \x7b0\x7d annotation"
  | throwInGlobalScope => "Throwing checked exception \x7b0\x7d in global scope is prohibited"
  | alreadyCaught => "\x7b0\x7d is already caught by \x7b1\x7d"
  | redundantCatch => "\x7b0\x7d is redundant"
  | unreachableCatch => "\x7b0\x7d is unreachable, superclass \x7b1\x7d has already been caught"
  | neverThrown => "\x7b0\x7d is never thrown in the corresponding try block"

def ofNumber? (n : Nat) : Option Code := all.find? fun c => c.number == n

/-- The position of a code in the message table. -/
def index (c : Code) : Nat := all.idxOf c

end Code

/-- A reported fault. -/
structure Diagnostic where
  file : String
  line : Nat
  code : Code
  /-- The classes that the message names. -/
  names : List ClassName
  deriving DecidableEq

/-- The message of a diagnostic. -/
def Diagnostic.text (d : Diagnostic) : String :=
  Template.fill d.code.template (d.names.map (·.text))

end ExceptionFlow
