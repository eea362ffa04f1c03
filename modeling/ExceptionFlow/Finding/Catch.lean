import ExceptionFlow.Hierarchy.Basic
import ExceptionFlow.Node

set_option autoImplicit false

/-! # Catch entries that can never decide

Some entries of catch clauses are pointless whatever the try body does: another entry of the clause
takes the same type or a supertype, or an earlier clause does. -/

namespace ExceptionFlow

/-- Why an entry is pointless. -/
inductive CatchFault where
  /-- An earlier entry of the clause names the same class. -/
  | redundant
  /-- Another entry of the clause names a supertype. -/
  | alreadyCaughtBy (other : ClassName)
  /-- An earlier clause catches the class or a supertype. -/
  | unreachable (earlier : ClassName)
  deriving DecidableEq

/-- A pointless entry, with the positions of its clause and of itself. -/
structure CatchFinding where
  clause : Nat
  entry : Nat
  line : Nat
  type : ClassName
  fault : CatchFault
  deriving DecidableEq

namespace CatchFinding

variable (H : Hierarchy)

/-- The fault that entry `j` of a clause is for entry `i`, whose declared name is `resolved`. A
    repetition is the fault of the later entry. -/
def faultBy (i : Nat) (resolved : ClassName) (other : ClassName × Nat) : Option CatchFault :=
  if other.2 = i then none
  else
    match H.resolve? other.1 with
    | none => none
    | some otherResolved =>
      if resolved = otherResolved then if i < other.2 then none else some .redundant
      else if H.isSubclass resolved otherResolved then some (.alreadyCaughtBy other.1)
      else none

/-- The first fault of an entry within its clause. Entries of unknown classes have none and are none
    for others. -/
def faultWithin (types : List ClassName) (entry : ClassName × Nat) : Option CatchFault :=
  match H.resolve? entry.1 with
  | none => none
  | some resolved => types.zipIdx.findSome? (faultBy H entry.2 resolved)

/-- The faults within each clause. -/
def withinClauses (clauses : List CatchClause) : List CatchFinding :=
  clauses.zipIdx.flatMap fun (clause, k) =>
    clause.types.zipIdx.filterMap fun entry =>
      (faultWithin H clause.types entry).map fun fault => ⟨k, entry.2, clause.line, entry.1, fault⟩

/-- The class among those caught before that catches an entry already. -/
def caughtBefore? (caught : List ClassName) (type : ClassName) : Option ClassName :=
  (H.resolve? type).bind fun resolved => caught.find? (H.isSameOrSubclass resolved)

/-- The entries that earlier clauses make unreachable, from the `k`-th clause on; `caught` holds the
    classes of the clauses before. -/
def acrossClausesFrom (k : Nat) (caught : List ClassName) : List CatchClause → List CatchFinding
  | [] => []
  | clause :: rest =>
    (clause.types.zipIdx.filterMap fun entry =>
      (caughtBefore? H caught entry.1).map fun earlier =>
        ⟨k, entry.2, clause.line, entry.1, .unreachable earlier⟩) ++
      acrossClausesFrom (k + 1) (caught ++ clause.types.filterMap H.resolve?) rest

/-- All pointless entries: first those within clauses, then those across clauses. -/
def ofClauses (clauses : List CatchClause) : List CatchFinding :=
  withinClauses H clauses ++ acrossClausesFrom H 0 [] clauses

end CatchFinding

end ExceptionFlow
