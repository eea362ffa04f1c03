import ExceptionFlow.Proofs.Tracking

set_option autoImplicit false

/-! # Which catch entries are pointless

The findings about the clauses of a try come from two searches, one through the types of each clause
and one through the clauses with the classes caught so far. This module says without a search which
positions they report. Both searches come to the same thing, a rule that is asked about each entry
in turn (`located`). `Pointless` names the reason for a finding, another entry of the clause that
outranks the entry or an earlier clause that catches its class, and `any_isAt_ofClauses` is the
agreement. -/

namespace ExceptionFlow.CatchFinding

variable (H : Hierarchy)

/-- Entry `j` of a clause makes entry `i` pointless: it names a supertype, or the same class
    earlier. Entries of unknown classes have no part in this. -/
def Outranks (types : List ClassName) (j i : Nat) : Prop :=
  ∃ type resolved other otherResolved,
    types[i]? = some type ∧ H.resolve? type = some resolved ∧
    types[j]? = some other ∧ H.resolve? other = some otherResolved ∧
    (resolved = otherResolved ∧ j < i ∨
      resolved ≠ otherResolved ∧ H.isSubclass resolved otherResolved = true)

/-- Some earlier clause names the class of the entry or a supertype. -/
def CaughtEarlier (earlier : List CatchClause) (type : ClassName) : Prop :=
  ∃ resolved, H.resolve? type = some resolved ∧
    ∃ c ∈ earlier, ∃ other ∈ c.types, ∃ otherResolved, H.resolve? other = some otherResolved ∧
      H.isSameOrSubclass resolved otherResolved = true

/-- The entry at a position can never decide, whatever the try body does. -/
def Pointless (clauses : List CatchClause) (clause entry : Nat) : Prop :=
  ∃ c type, clauses[clause]? = some c ∧ c.types[entry]? = some type ∧
    ((∃ other, Outranks H c.types other entry) ∨ CaughtEarlier H (clauses.take clause) type)

/-! ## One entry after the other -/

/-- The findings by some rule, entry by entry. The rule is asked for the fault of an entry, given
    its clause and the positions of both. -/
def located (fault? : CatchClause → Nat → ClassName × Nat → Option CatchFault)
    (clauses : List CatchClause) : List CatchFinding :=
  clauses.zipIdx.flatMap fun c =>
    c.1.types.zipIdx.filterMap fun e =>
      (fault? c.1 c.2 e).map fun fault => ⟨c.2, e.2, c.1.line, e.1, fault⟩

section Located

variable {fault? : CatchClause → Nat → ClassName × Nat → Option CatchFault}
  {clauses : List CatchClause}

theorem mem_located {f : CatchFinding} :
    f ∈ located fault? clauses
      ↔ ∃ c, clauses[f.clause]? = some c ∧ c.types[f.entry]? = some f.type ∧ f.line = c.line ∧
          fault? c f.clause (f.type, f.entry) = some f.fault := by
  simp only [located, List.mem_flatMap, List.mem_filterMap, Option.map_eq_some_iff, Prod.exists,
    List.mem_zipIdx_iff_getElem?]
  constructor
  · rintro ⟨c, k, hc, type, i, htype, fault, hfault, rfl⟩
    exact ⟨c, hc, htype, rfl, hfault⟩
  · rintro ⟨c, hc, htype, hline, hfault⟩
    refine ⟨c, f.clause, hc, f.type, f.entry, htype, f.fault, hfault, ?_⟩
    rw [← hline]

theorem any_isAt_located {k i : Nat} :
    (located fault? clauses).any (isAt k i) = true
      ↔ ∃ c type, clauses[k]? = some c ∧ c.types[i]? = some type ∧
          (fault? c k (type, i)).isSome = true := by
  simp only [List.any_eq_true, mem_located, isAt, Bool.and_eq_true, beq_iff_eq]
  constructor
  · rintro ⟨f, ⟨c, hc, htype, -, hfault⟩, rfl, rfl⟩
    exact ⟨c, f.type, hc, htype, Option.isSome_of_eq_some hfault⟩
  · rintro ⟨c, type, hc, htype, hsome⟩
    obtain ⟨fault, hfault⟩ := Option.isSome_iff_exists.1 hsome
    exact ⟨⟨k, i, c.line, type, fault⟩, ⟨c, hc, htype, rfl, hfault⟩, rfl, rfl⟩

end Located

/-- The fault of an entry by the clauses before its own. -/
def faultAcross (clauses : List CatchClause) (k : Nat) (type : ClassName) : Option CatchFault :=
  (caughtBefore? H (((clauses.take k).flatMap CatchClause.types).filterMap H.resolve?) type).map
    .unreachable

theorem withinClauses_eq_located (clauses : List CatchClause) :
    withinClauses H clauses = located (fun c _ e => faultWithin H c.types e) clauses := rfl

/-- Instead of carrying the classes along that were caught so far, one may look at the clauses
    before. -/
theorem acrossClausesFrom_eq (n : Nat) (caught : List ClassName) (clauses : List CatchClause) :
    acrossClausesFrom H n caught clauses
      = clauses.zipIdx.flatMap fun c =>
          c.1.types.zipIdx.filterMap fun e =>
            (caughtBefore? H (caught ++
                ((clauses.take c.2).flatMap CatchClause.types).filterMap H.resolve?) e.1).map
              fun earlier => ⟨n + c.2, e.2, c.1.line, e.1, .unreachable earlier⟩ := by
  induction clauses generalizing n caught with
  | nil => rfl
  | cons first rest ih =>
    rw [acrossClausesFrom, ih, List.zipIdx_cons', List.flatMap_cons, List.flatMap_map]
    simp [Nat.add_assoc, Nat.add_comm 1]

theorem acrossClauses_eq_located (clauses : List CatchClause) :
    acrossClausesFrom H 0 [] clauses
      = located (fun _ k e => faultAcross H clauses k e.1) clauses := by
  rw [acrossClausesFrom_eq]
  simp [located, faultAcross, Option.map_map, Function.comp_def]

variable {H}

/-! ## Within a clause -/

theorem faultBy_isSome {i j : Nat} {resolved other : ClassName} :
    (faultBy H i resolved (other, j)).isSome = true
      ↔ j ≠ i ∧ ∃ otherResolved, H.resolve? other = some otherResolved ∧
          (resolved = otherResolved ∧ j < i ∨
            resolved ≠ otherResolved ∧ H.isSubclass resolved otherResolved = true) := by
  rw [faultBy]
  by_cases hj : j = i
  · simp [hj]
  cases hother : H.resolve? other with
  | none => simp [hj]
  | some otherResolved =>
    by_cases hsame : resolved = otherResolved
    · by_cases hlater : i < j
      · have hnot : ¬ j < i := Nat.lt_asymm hlater
        simp [hj, hsame, hlater, hnot]
      · have hearlier : j < i := by omega
        simp [hj, hsame, hlater, hearlier]
    · by_cases hsub : H.isSubclass resolved otherResolved = true
      · simp [hj, hsame, hsub]
      · simp [hj, hsame, hsub]

/-- An entry has a fault within its clause exactly if another entry outranks it. -/
theorem faultWithin_isSome {types : List ClassName} {i : Nat} {type : ClassName}
    (htype : types[i]? = some type) :
    (faultWithin H types (type, i)).isSome = true ↔ ∃ j, Outranks H types j i := by
  rw [faultWithin]
  cases hresolved : H.resolve? type with
  | none =>
    refine iff_of_false (by simp) ?_
    rintro ⟨j, found, resolved, -, -, hfound, hknown, -⟩
    obtain rfl := Option.some.inj (htype.symm.trans hfound)
    rw [hresolved] at hknown
    cases hknown
  | some resolved =>
    simp only [List.findSome?_isSome_iff]
    constructor
    · rintro ⟨⟨other, j⟩, hother, hfault⟩
      obtain ⟨-, otherResolved, hknown, hrank⟩ := faultBy_isSome.1 hfault
      exact ⟨j, type, resolved, other, otherResolved, htype, hresolved,
        List.mem_zipIdx_iff_getElem?.1 hother, hknown, hrank⟩
    · rintro ⟨j, found, resolved', other, otherResolved, hfound, hresolved', hother, hknown, hrank⟩
      obtain rfl := Option.some.inj (htype.symm.trans hfound)
      obtain rfl := Option.some.inj (hresolved.symm.trans hresolved')
      refine ⟨(other, j), List.mem_zipIdx_iff_getElem?.2 hother, faultBy_isSome.2 ⟨?_, ?_⟩⟩
      · -- no entry outranks itself
        rintro rfl
        obtain rfl := Option.some.inj (htype.symm.trans hother)
        obtain rfl := Option.some.inj (hresolved.symm.trans hknown)
        rcases hrank with ⟨-, hlt⟩ | ⟨hne, -⟩
        · exact Nat.lt_irrefl _ hlt
        · exact hne rfl
      · exact ⟨otherResolved, hknown, hrank⟩

theorem any_isAt_withinClauses {clauses : List CatchClause} {k i : Nat} :
    (withinClauses H clauses).any (isAt k i) = true
      ↔ ∃ c type, clauses[k]? = some c ∧ c.types[i]? = some type ∧ ∃ j, Outranks H c.types j i := by
  rw [withinClauses_eq_located, any_isAt_located]
  constructor
  · rintro ⟨c, type, hc, htype, hfault⟩
    exact ⟨c, type, hc, htype, (faultWithin_isSome htype).1 hfault⟩
  · rintro ⟨c, type, hc, htype, houtranked⟩
    exact ⟨c, type, hc, htype, (faultWithin_isSome htype).2 houtranked⟩

/-! ## Across clauses -/

theorem caughtBefore?_isSome {caught : List ClassName} {type : ClassName} :
    (caughtBefore? H caught type).isSome = true
      ↔ ∃ resolved, H.resolve? type = some resolved ∧
          ∃ earlier ∈ caught, H.isSameOrSubclass resolved earlier = true := by
  rw [caughtBefore?]
  cases H.resolve? type with
  | none => simp
  | some resolved => simp

/-- An entry has a fault across clauses exactly if an earlier clause catches its class. -/
theorem faultAcross_isSome {clauses : List CatchClause} {k : Nat} {type : ClassName} :
    (faultAcross H clauses k type).isSome = true ↔ CaughtEarlier H (clauses.take k) type := by
  rw [faultAcross, Option.isSome_map, caughtBefore?_isSome]
  simp only [List.mem_filterMap, List.mem_flatMap, CaughtEarlier]
  constructor
  · rintro ⟨resolved, hresolved, otherResolved, ⟨other, ⟨c, hc, hother⟩, hknown⟩, hsub⟩
    exact ⟨resolved, hresolved, c, hc, other, hother, otherResolved, hknown, hsub⟩
  · rintro ⟨resolved, hresolved, c, hc, other, hother, otherResolved, hknown, hsub⟩
    exact ⟨resolved, hresolved, otherResolved, ⟨other, ⟨c, hc, hother⟩, hknown⟩, hsub⟩

theorem any_isAt_acrossClauses {clauses : List CatchClause} {k i : Nat} :
    (acrossClausesFrom H 0 [] clauses).any (isAt k i) = true
      ↔ ∃ c type, clauses[k]? = some c ∧ c.types[i]? = some type ∧
          CaughtEarlier H (clauses.take k) type := by
  rw [acrossClauses_eq_located, any_isAt_located]
  simp only [faultAcross_isSome]

/-- **A position is reported exactly if its entry is pointless.** -/
theorem any_isAt_ofClauses {clauses : List CatchClause} {k i : Nat} :
    (ofClauses H clauses).any (isAt k i) = true ↔ Pointless H clauses k i := by
  rw [ofClauses, List.any_append, Bool.or_eq_true, any_isAt_withinClauses, any_isAt_acrossClauses]
  constructor
  · rintro (⟨c, type, hc, htype, h⟩ | ⟨c, type, hc, htype, h⟩)
    · exact ⟨c, type, hc, htype, .inl h⟩
    · exact ⟨c, type, hc, htype, .inr h⟩
  · rintro ⟨c, type, hc, htype, h | h⟩
    · exact .inl ⟨c, type, hc, htype, h⟩
    · exact .inr ⟨c, type, hc, htype, h⟩

end ExceptionFlow.CatchFinding
