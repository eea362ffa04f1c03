import ExceptionFlow.Proofs.Pruning

set_option autoImplicit false

/-! # The findings about catch clauses

The clauses of a try are searched twice, once each by itself and once in their order. Both searches
go through all entries and report at most one fault for each (`CatchFinding.located`), so the
findings come in the order of the entries, and none comes twice. What is left to say is which fault
it is. `CatchFinding.ofClauses_exact` puts this together for registries.

Of the entries of a clause that name one class, the first is spared unless the clause also has a
supertype. So the classes that are reported within a clause do not depend on the order of its types
(`deadClasses_perm`): the ones that are spared are the same, and each of them is spared once. -/

namespace ExceptionFlow

open Relation (TransGen ReflTransGen)

/-- Whether a fault lies in the entry's own clause. -/
def CatchFault.isDeadUnion : CatchFault → Bool
  | .redundant => true
  | .alreadyCaughtBy _ => true
  | .unreachable _ => false

namespace CatchFinding

/-! ## Findings in the order of the entries -/

section Located

variable {fault? : CatchClause → Nat → ClassName × Nat → Option CatchFault}
  {clauses : List CatchClause}

/-- By clause, then by entry. -/
def PositionLt (f g : CatchFinding) : Prop :=
  f.clause < g.clause ∨ f.clause = g.clause ∧ f.entry < g.entry

theorem pairwise_located : (located fault? clauses).Pairwise PositionLt := by
  refine List.pairwise_flatMap.2 ⟨?_, ?_⟩
  · intro c _
    refine List.pairwise_filterMap.2 ((pairwise_zipIdx c.1.types).imp ?_)
    intro a b hlt f hf g hg
    obtain ⟨_, -, rfl⟩ := Option.map_eq_some_iff.1 hf
    obtain ⟨_, -, rfl⟩ := Option.map_eq_some_iff.1 hg
    exact .inr ⟨rfl, hlt⟩
  · refine (pairwise_zipIdx clauses).imp ?_
    intro c d hlt f hf g hg
    obtain ⟨_, -, hf⟩ := List.mem_filterMap.1 hf
    obtain ⟨_, -, hg⟩ := List.mem_filterMap.1 hg
    obtain ⟨_, -, rfl⟩ := Option.map_eq_some_iff.1 hf
    obtain ⟨_, -, rfl⟩ := Option.map_eq_some_iff.1 hg
    exact .inl hlt

end Located

variable (H : Hierarchy)

/-! ## Two groups of findings -/

section Groups

variable {H} {clauses : List CatchClause} {f : CatchFinding}

theorem faultBy_eq_some {i j : Nat} {resolved other : ClassName} {fault : CatchFault}
    (h : faultBy H i resolved (other, j) = some fault) :
    ∃ otherResolved, H.resolve? other = some otherResolved ∧
      (fault = .redundant ∧ resolved = otherResolved ∧ j < i ∨
        fault = .alreadyCaughtBy other ∧ H.isSubclass resolved otherResolved = true) := by
  rw [faultBy] at h
  split at h
  · cases h
  rename_i hne
  split at h
  · cases h
  rename_i otherResolved hknown
  refine ⟨otherResolved, hknown, ?_⟩
  split at h
  · rename_i hsame
    split at h
    · cases h
    · rename_i hlater
      exact .inl ⟨(Option.some.inj h).symm, hsame, by simp only at hne hlater; omega⟩
  · split at h
    · rename_i hsub
      exact .inr ⟨(Option.some.inj h).symm, hsub⟩
    · cases h

/-- A fault within a clause comes from another entry of it. -/
theorem faultWithin_eq_some {types : List ClassName} {type : ClassName} {i : Nat}
    {fault : CatchFault} (h : faultWithin H types (type, i) = some fault) :
    ∃ resolved j other otherResolved, H.resolve? type = some resolved ∧
      types[j]? = some other ∧ H.resolve? other = some otherResolved ∧
      (fault = .redundant ∧ resolved = otherResolved ∧ j < i ∨
        fault = .alreadyCaughtBy other ∧ H.isSubclass resolved otherResolved = true) := by
  rw [faultWithin] at h
  split at h
  · cases h
  rename_i resolved hresolved
  obtain ⟨⟨other, j⟩, hother, hfault⟩ := List.exists_of_findSome?_eq_some h
  obtain ⟨otherResolved, hknown, hreason⟩ := faultBy_eq_some hfault
  exact ⟨resolved, j, other, otherResolved, hresolved, List.mem_zipIdx_iff_getElem?.1 hother,
    hknown, hreason⟩

theorem isDeadUnion_of_mem_withinClauses (h : f ∈ withinClauses H clauses) :
    f.fault.isDeadUnion = true := by
  rw [withinClauses_eq_located] at h
  obtain ⟨c, -, -, -, hfault⟩ := mem_located.1 h
  obtain ⟨_, _, _, _, -, -, -, ⟨hf, -⟩ | ⟨hf, -⟩⟩ := faultWithin_eq_some hfault
  · rw [hf]
    rfl
  · rw [hf]
    rfl

theorem isDeadUnion_of_mem_acrossClauses (h : f ∈ acrossClausesFrom H 0 [] clauses) :
    f.fault.isDeadUnion = false := by
  rw [acrossClauses_eq_located] at h
  obtain ⟨c, -, -, -, hfault⟩ := mem_located.1 h
  obtain ⟨earlier, -, hf⟩ := Option.map_eq_some_iff.1 hfault
  rw [← hf]
  rfl

theorem mem_withinClauses_iff :
    f ∈ withinClauses H clauses ↔ f ∈ ofClauses H clauses ∧ f.fault.isDeadUnion = true := by
  rw [ofClauses, List.mem_append]
  constructor
  · intro h
    exact ⟨.inl h, isDeadUnion_of_mem_withinClauses h⟩
  · rintro ⟨h | h, hdead⟩
    · exact h
    · simp [isDeadUnion_of_mem_acrossClauses h] at hdead

theorem mem_acrossClauses_iff :
    f ∈ acrossClausesFrom H 0 [] clauses
      ↔ f ∈ ofClauses H clauses ∧ f.fault.isDeadUnion = false := by
  rw [ofClauses, List.mem_append]
  constructor
  · intro h
    exact ⟨.inr h, isDeadUnion_of_mem_acrossClauses h⟩
  · rintro ⟨h | h, hdead⟩
    · simp [isDeadUnion_of_mem_withinClauses h] at hdead
    · exact h

/-- The order of the findings: those within clauses first, each group by position. -/
def Before (f g : CatchFinding) : Prop :=
  f.fault.isDeadUnion = true ∧ g.fault.isDeadUnion = false ∨
    f.fault.isDeadUnion = g.fault.isDeadUnion ∧ PositionLt f g

theorem pairwise_ofClauses (clauses : List CatchClause) :
    (ofClauses H clauses).Pairwise Before := by
  refine List.pairwise_append.2 ⟨?_, ?_, ?_⟩
  · have hgroup : (withinClauses H clauses).Pairwise PositionLt := by
      rw [withinClauses_eq_located]
      exact pairwise_located
    refine hgroup.imp_of_mem ?_
    intro f g hf hg hlt
    exact .inr ⟨(isDeadUnion_of_mem_withinClauses hf).trans
      (isDeadUnion_of_mem_withinClauses hg).symm, hlt⟩
  · have hgroup : (acrossClausesFrom H 0 [] clauses).Pairwise PositionLt := by
      rw [acrossClauses_eq_located]
      exact pairwise_located
    refine hgroup.imp_of_mem ?_
    intro f g hf hg hlt
    exact .inr ⟨(isDeadUnion_of_mem_acrossClauses hf).trans
      (isDeadUnion_of_mem_acrossClauses hg).symm, hlt⟩
  · intro f hf g hg
    exact .inl ⟨isDeadUnion_of_mem_withinClauses hf, isDeadUnion_of_mem_acrossClauses hg⟩

/-- The findings of one group about the entry at a position. -/
def isOf (deadUnion : Bool) (k i : Nat) (f : CatchFinding) : Bool :=
  f.isAt k i && f.fault.isDeadUnion == deadUnion

theorem not_before_of_isOf {deadUnion : Bool} {k i : Nat} {f g : CatchFinding}
    (hf : f.isOf deadUnion k i = true) (hg : g.isOf deadUnion k i = true) : ¬ Before f g := by
  simp only [isOf, isAt, Bool.and_eq_true, beq_iff_eq] at hf hg
  obtain ⟨⟨hfk, hfi⟩, hfd⟩ := hf
  obtain ⟨⟨hgk, hgi⟩, hgd⟩ := hg
  rintro (⟨hdead, hnot⟩ | ⟨-, hlt | ⟨-, hlt⟩⟩)
  · rw [hfd] at hdead
    rw [hgd, hdead] at hnot
    cases hnot
  · omega
  · omega

/-- Of each group there is at most one finding about an entry. -/
theorem countP_isOf {deadUnion : Bool} {k i : Nat} {reason : Prop}
    (h : (∃ f ∈ ofClauses H clauses, f.isOf deadUnion k i = true) ↔ reason) :
    (reason → (ofClauses H clauses).countP (isOf deadUnion k i) = 1) ∧
      (¬ reason → (ofClauses H clauses).countP (isOf deadUnion k i) = 0) := by
  constructor
  · intro hreason
    exact countP_eq_one (pairwise_ofClauses clauses) (fun _ _ => not_before_of_isOf) (h.2 hreason)
  · intro hnot
    refine List.countP_eq_zero.2 ?_
    intro f hf hof
    exact hnot (h.1 ⟨f, hf, hof⟩)

theorem exists_isOf_iff {deadUnion : Bool} {group : List CatchFinding} {k i : Nat}
    (hgroup : ∀ f, f ∈ group ↔ f ∈ ofClauses H clauses ∧ f.fault.isDeadUnion = deadUnion) :
    (∃ f ∈ ofClauses H clauses, f.isOf deadUnion k i = true) ↔ group.any (isAt k i) = true := by
  simp only [isOf, Bool.and_eq_true, beq_iff_eq, List.any_eq_true, hgroup]
  constructor
  · rintro ⟨f, hf, hat, hdead⟩
    exact ⟨f, ⟨hf, hdead⟩, hat⟩
  · rintro ⟨f, ⟨hf, hdead⟩, hat⟩
    exact ⟨f, hf, hat, hdead⟩

end Groups

/-! ## The reasons, in a registry -/

section Registry

variable (r : Registry)

/-- A known entry that another one of its clause makes pointless: a known entry that names a strict
    supertype, or one before it that names the same class. -/
def DeadInUnion (types : List ClassName) (i : Nat) (type : ClassName) : Prop :=
  r.hierarchy.knows type = true ∧
    ∃ j other, types[j]? = some other ∧ r.hierarchy.knows other = true ∧
      (type.key ≠ other.key ∧ TransGen r.Extends type.key other.key ∨ type.key = other.key ∧ j < i)

/-- A known entry of whose class, or of a supertype, the clauses before have a known entry. -/
def CaughtByEarlier (earlier : List CatchClause) (type : ClassName) : Prop :=
  r.hierarchy.knows type = true ∧
    ∃ c ∈ earlier, ∃ other ∈ c.types, r.hierarchy.knows other = true ∧
      ReflTransGen r.Extends type.key other.key

/-- Going through the entries of the clauses before, the first known one that names the class or a
    supertype is declared by this name. -/
def FirstCaughtBy (earlier : List CatchClause) (type declared : ClassName) : Prop :=
  ∃ before other after, earlier.flatMap CatchClause.types = before ++ other :: after ∧
    r.hierarchy.resolve? other = some declared ∧ ReflTransGen r.Extends type.key other.key ∧
    ∀ e ∈ before, r.hierarchy.knows e = true → ¬ ReflTransGen r.Extends type.key e.key

/-- A finding is about a known entry, and the reason that it gives is true. -/
def IsTrueOf (clauses : List CatchClause) (f : CatchFinding) : Prop :=
  ∃ c, clauses[f.clause]? = some c ∧ c.types[f.entry]? = some f.type ∧ f.line = c.line ∧
    r.hierarchy.knows f.type = true ∧
    match f.fault with
    | .redundant => ∃ j other, j < f.entry ∧ c.types[j]? = some other ∧
        r.hierarchy.knows other = true ∧ f.type.key = other.key
    | .alreadyCaughtBy other => other ∈ c.types ∧ r.hierarchy.knows other = true ∧
        f.type.key ≠ other.key ∧ TransGen r.Extends f.type.key other.key
    | .unreachable declared => FirstCaughtBy r (clauses.take f.clause) f.type declared

variable {r} {clauses : List CatchClause}

theorem knows_iff_resolve? {H : Hierarchy} {name : ClassName} :
    H.knows name = true ↔ (H.resolve? name).isSome = true := by
  simp [Hierarchy.knows, Hierarchy.resolve?]

theorem knows_of_resolve? {H : Hierarchy} {name resolved : ClassName}
    (h : H.resolve? name = some resolved) : H.knows name = true :=
  knows_iff_resolve?.2 (Option.isSome_of_eq_some h)

theorem exists_outranks_iff {types : List ClassName} {i : Nat} {type : ClassName}
    (htype : types[i]? = some type) :
    (∃ j, Outranks r.hierarchy types j i) ↔ DeadInUnion r types i type := by
  simp only [outranks_iff, DeadInUnion, knows_iff_resolve?, Registry.isSubclass_iff]
  constructor
  · rintro ⟨j, a, other, ha, hother, hknown, hotherKnown, hrank⟩
    obtain rfl := Option.some.inj (htype.symm.trans ha)
    exact ⟨hknown, j, other, hother, hotherKnown, hrank.symm⟩
  · rintro ⟨hknown, j, other, hother, hotherKnown, hrank⟩
    exact ⟨j, type, other, htype, hother, hknown, hotherKnown, hrank.symm⟩

/-- Subtyping between declared names is subtyping between the names that lead to them. -/
theorem isSameOrSubclass_resolved_iff {type resolved other otherResolved : ClassName}
    (htype : r.hierarchy.resolve? type = some resolved)
    (hother : r.hierarchy.resolve? other = some otherResolved) :
    r.hierarchy.isSameOrSubclass resolved otherResolved = true
      ↔ ReflTransGen r.Extends type.key other.key := by
  rw [Registry.isSameOrSubclass_iff, Registry.key_of_resolve? htype,
    Registry.key_of_resolve? hother]

theorem caughtEarlier_iff {earlier : List CatchClause} {type : ClassName} :
    CaughtEarlier r.hierarchy earlier type ↔ CaughtByEarlier r earlier type := by
  constructor
  · rintro ⟨resolved, hresolved, c, hc, other, hother, otherResolved, hknown, hsub⟩
    exact ⟨knows_of_resolve? hresolved, c, hc, other, hother, knows_of_resolve? hknown,
      (isSameOrSubclass_resolved_iff hresolved hknown).1 hsub⟩
  · rintro ⟨hknows, c, hc, other, hother, hotherKnows, hpath⟩
    obtain ⟨resolved, hresolved⟩ := Option.isSome_iff_exists.1 (knows_iff_resolve?.1 hknows)
    obtain ⟨otherResolved, hknown⟩ :=
      Option.isSome_iff_exists.1 (knows_iff_resolve?.1 hotherKnows)
    exact ⟨resolved, hresolved, c, hc, other, hother, otherResolved, hknown,
      (isSameOrSubclass_resolved_iff hresolved hknown).2 hpath⟩

/-- The search through the classes caught before finds the first entry that catches. -/
theorem firstCaughtBy_of_caughtBefore? {earlier : List CatchClause} {type declared : ClassName}
    (h : caughtBefore? r.hierarchy
      ((earlier.flatMap CatchClause.types).filterMap r.hierarchy.resolve?) type = some declared) :
    r.hierarchy.knows type = true ∧ FirstCaughtBy r earlier type declared := by
  obtain ⟨resolved, hresolved, hfind⟩ := Option.bind_eq_some_iff.1 h
  rw [List.find?_filterMap] at hfind
  obtain ⟨other, hother, hdeclared⟩ := Option.bind_eq_some_iff.1 hfind
  obtain ⟨hcatches, before, after, hsplit, hnone⟩ := List.find?_eq_some_iff_append.1 hother
  rw [hdeclared, Option.any_some, isSameOrSubclass_resolved_iff hresolved hdeclared] at hcatches
  refine ⟨knows_of_resolve? hresolved, before, other, after, hsplit, hdeclared, hcatches, ?_⟩
  intro e he hknows hpath
  obtain ⟨eResolved, heResolved⟩ := Option.isSome_iff_exists.1 (knows_iff_resolve?.1 hknows)
  have hnot := hnone e he
  rw [heResolved, Option.any_some, (isSameOrSubclass_resolved_iff hresolved heResolved).2 hpath]
    at hnot
  cases hnot

theorem isTrueOf_of_mem_withinClauses {f : CatchFinding}
    (h : f ∈ withinClauses r.hierarchy clauses) : IsTrueOf r clauses f := by
  rw [withinClauses_eq_located] at h
  obtain ⟨c, hc, htype, hline, hfault⟩ := mem_located.1 h
  obtain ⟨resolved, j, other, otherResolved, hresolved, hother, hknown, hreason⟩ :=
    faultWithin_eq_some hfault
  refine ⟨c, hc, htype, hline, knows_of_resolve? hresolved, ?_⟩
  rcases hreason with ⟨hf, hsame, hlt⟩ | ⟨hf, hsub⟩
  · rw [hf]
    exact ⟨j, other, hlt, hother, knows_of_resolve? hknown,
      (Registry.resolved_eq_iff hresolved hknown).1 hsame⟩
  · rw [hf]
    rw [Registry.isSubclass_iff, Registry.key_of_resolve? hresolved,
      Registry.key_of_resolve? hknown] at hsub
    exact ⟨List.mem_of_getElem? hother, knows_of_resolve? hknown, hsub⟩

theorem isTrueOf_of_mem_acrossClauses {f : CatchFinding}
    (h : f ∈ acrossClausesFrom r.hierarchy 0 [] clauses) : IsTrueOf r clauses f := by
  rw [acrossClauses_eq_located] at h
  obtain ⟨c, hc, htype, hline, hfault⟩ := mem_located.1 h
  obtain ⟨declared, hdeclared, hf⟩ := Option.map_eq_some_iff.1 hfault
  obtain ⟨hknows, hfirst⟩ := firstCaughtBy_of_caughtBefore? hdeclared
  refine ⟨c, hc, htype, hline, hknows, ?_⟩
  rw [← hf]
  exact hfirst

end Registry

/-! ## The order of the types in a clause -/

/-- The entries of a clause that have a fault within it, and those that have none. -/
def deadEntries (types : List ClassName) : List (ClassName × Nat) :=
  types.zipIdx.filter fun e => (faultWithin H types e).isSome

def sparedEntries (types : List ClassName) : List (ClassName × Nat) :=
  types.zipIdx.filter fun e => !(faultWithin H types e).isSome

/-- The declared names of some entries. -/
def classesOf (entries : List (ClassName × Nat)) : List ClassName :=
  entries.filterMap fun e => H.resolve? e.1

/-- The findings within a clause. -/
def deadFindings (clauses : List CatchClause) (k : Nat) : List CatchFinding :=
  (ofClauses H clauses).filter fun f => f.clause == k && f.fault.isDeadUnion

/-- The classes, by their declared names, that are reported within a clause. -/
def deadClasses (clauses : List CatchClause) (k : Nat) : List ClassName :=
  (deadFindings H clauses k).filterMap fun f => H.resolve? f.type

section Order

variable {H}

theorem mem_sparedEntries {types : List ClassName} {e : ClassName × Nat} :
    e ∈ sparedEntries H types
      ↔ types[e.2]? = some e.1 ∧ ¬ ∃ j, Outranks H types j e.2 := by
  rw [sparedEntries, List.mem_filter, List.mem_zipIdx_iff_getElem?]
  refine and_congr_right fun htype => ?_
  rw [Bool.not_eq_true', ← Bool.not_eq_true, faultWithin_isSome htype]

/-- No class is spared twice: the second of its entries repeats the first. -/
theorem nodup_classesOf_sparedEntries (types : List ClassName) :
    (classesOf H (sparedEntries H types)).Nodup := by
  refine List.pairwise_filterMap.2 ?_
  refine ((pairwise_zipIdx types).filter _).imp_of_mem ?_
  intro a b ha hb hlt name hname other hother hsame
  subst hsame
  have hrank : Outranks H types a.2 b.2 :=
    ⟨b.1, name, a.1, name, (mem_sparedEntries.1 hb).1, hother, (mem_sparedEntries.1 ha).1, hname,
      .inl ⟨rfl, hlt⟩⟩
  exact (mem_sparedEntries.1 hb).2 ⟨a.2, hrank⟩

/-- A class is spared if it is in the clause and no supertype is, wherever they stand. -/
theorem mem_classesOf_sparedEntries {types : List ClassName} {name : ClassName} :
    name ∈ classesOf H (sparedEntries H types)
      ↔ name ∈ types.filterMap H.resolve? ∧
        ∀ above ∈ types.filterMap H.resolve?, H.isSubclass name above = false := by
  simp only [classesOf, List.mem_filterMap]
  constructor
  · rintro ⟨⟨type, i⟩, hspared, hname⟩
    obtain ⟨htype, hfree⟩ := mem_sparedEntries.1 hspared
    refine ⟨⟨type, List.mem_of_getElem? htype, hname⟩, ?_⟩
    rintro above ⟨other, hother, habove⟩
    obtain ⟨j, hj⟩ := List.mem_iff_getElem?.1 hother
    refine Bool.eq_false_iff.2 ?_
    intro hsub
    have hne : name ≠ above := by
      rintro rfl
      rw [H.isSubclass_self] at hsub
      cases hsub
    exact hfree ⟨j, type, name, other, above, htype, hname, hj, habove, .inr ⟨hne, hsub⟩⟩
  · rintro ⟨⟨type, htype, hname⟩, htop⟩
    -- the first entry of the class is the one that is spared
    have hex : ∃ i : Nat, ∃ type, types[i]? = some type ∧ H.resolve? type = some name := by
      obtain ⟨i, hi⟩ := List.mem_iff_getElem?.1 htype
      exact ⟨i, type, hi, hname⟩
    classical
    obtain ⟨first, hfirst, hresolved⟩ := Nat.find_spec hex
    refine ⟨(first, Nat.find hex), mem_sparedEntries.2 ⟨hfirst, ?_⟩, hresolved⟩
    rintro ⟨j, found, foundResolved, other, otherResolved, hfound, hknown, hother, hotherKnown,
      hrank⟩
    obtain rfl := Option.some.inj (hfirst.symm.trans hfound)
    obtain rfl := Option.some.inj (hresolved.symm.trans hknown)
    rcases hrank with ⟨rfl, hlt⟩ | ⟨-, hsub⟩
    · exact Nat.find_min hex hlt ⟨other, hother, hotherKnown⟩
    · rw [htop otherResolved ⟨other, List.mem_of_getElem? hother, hotherKnown⟩] at hsub
      cases hsub

theorem perm_classesOf (types : List ClassName) :
    (classesOf H (deadEntries H types) ++ classesOf H (sparedEntries H types)).Perm
      (types.filterMap H.resolve?) := by
  have hsplit := (List.filter_append_perm (fun e => (faultWithin H types e).isSome)
    types.zipIdx).filterMap fun e => H.resolve? e.1
  have hall : (types.zipIdx.filterMap fun e => H.resolve? e.1) = types.filterMap H.resolve? := by
    rw [← Function.comp_def H.resolve? Prod.fst, ← List.filterMap_map, List.zipIdx_map_fst]
  rwa [List.filterMap_append, hall] at hsplit

open scoped List in
/-- The classes of the entries with a fault do not depend on the order of the types. -/
theorem classesOf_deadEntries_perm {types others : List ClassName} (h : others.Perm types) :
    (classesOf H (deadEntries H others)).Perm (classesOf H (deadEntries H types)) := by
  have hnames : (others.filterMap H.resolve?).Perm (types.filterMap H.resolve?) := h.filterMap _
  have hspared : (classesOf H (sparedEntries H types)).Perm
      (classesOf H (sparedEntries H others)) := by
    refine (List.perm_ext_iff_of_nodup (nodup_classesOf_sparedEntries _)
      (nodup_classesOf_sparedEntries _)).2 ?_
    intro name
    simp only [mem_classesOf_sparedEntries, hnames.mem_iff]
  refine (List.perm_append_right_iff (classesOf H (sparedEntries H others))).1 ?_
  calc classesOf H (deadEntries H others) ++ classesOf H (sparedEntries H others)
      ~ others.filterMap H.resolve? := perm_classesOf others
    _ ~ types.filterMap H.resolve? := hnames
    _ ~ classesOf H (deadEntries H types) ++ classesOf H (sparedEntries H types) :=
      (perm_classesOf types).symm
    _ ~ classesOf H (deadEntries H types) ++ classesOf H (sparedEntries H others) :=
      hspared.append_left _

section DeadFindings

variable {clauses : List CatchClause} {k : Nat}

theorem mem_deadFindings {f : CatchFinding} :
    f ∈ deadFindings H clauses k ↔ f ∈ withinClauses H clauses ∧ f.clause = k := by
  rw [deadFindings, mem_withinClauses_iff, List.mem_filter, Bool.and_eq_true, beq_iff_eq,
    and_assoc, and_comm (a := f.clause = k)]

theorem nodup_entries_deadFindings :
    ((deadFindings H clauses k).map fun f => (f.type, f.entry)).Nodup := by
  refine List.pairwise_map.2 (((pairwise_ofClauses clauses).filter _).imp_of_mem ?_)
  intro f g hf hg hbefore hsame
  obtain ⟨hf, hfk⟩ := mem_deadFindings.1 hf
  obtain ⟨hg, hgk⟩ := mem_deadFindings.1 hg
  have hentry : f.entry = g.entry := congrArg Prod.snd hsame
  rcases hbefore with ⟨-, hnot⟩ | ⟨-, hlt | ⟨-, hlt⟩⟩
  · rw [isDeadUnion_of_mem_withinClauses hg] at hnot
    cases hnot
  · omega
  · omega

variable {c : CatchClause}

/-- The findings within a clause are about its entries that have a fault there. -/
theorem entries_deadFindings_perm (hc : clauses[k]? = some c) :
    ((deadFindings H clauses k).map fun f => (f.type, f.entry)).Perm (deadEntries H c.types) := by
  refine (List.perm_ext_iff_of_nodup nodup_entries_deadFindings
    ((nodup_zipIdx c.types).filter _)).2 ?_
  rintro ⟨type, i⟩
  rw [List.mem_filter, List.mem_zipIdx_iff_getElem?, List.mem_map]
  simp only [mem_deadFindings, withinClauses_eq_located, mem_located]
  constructor
  · rintro ⟨f, ⟨⟨d, hd, htype, -, hfault⟩, rfl⟩, hsame⟩
    obtain ⟨rfl, rfl⟩ := Prod.mk.inj hsame
    obtain rfl := Option.some.inj (hc.symm.trans hd)
    exact ⟨htype, Option.isSome_of_eq_some hfault⟩
  · rintro ⟨htype, hfault⟩
    obtain ⟨fault, hfault⟩ := Option.isSome_iff_exists.1 hfault
    exact ⟨⟨k, i, c.line, type, fault⟩, ⟨⟨c, hc, htype, rfl, hfault⟩, rfl⟩, rfl⟩

theorem deadClasses_perm_classesOf (hc : clauses[k]? = some c) :
    (deadClasses H clauses k).Perm (classesOf H (deadEntries H c.types)) := by
  have hnames := (entries_deadFindings_perm (H := H) hc).filterMap fun e => H.resolve? e.1
  rwa [List.filterMap_map] at hnames

/-- The classes reported within a clause do not depend on the order of its types. -/
theorem deadClasses_perm (hc : clauses[k]? = some c) {types : List ClassName}
    (h : types.Perm c.types) :
    (deadClasses H (clauses.set k { c with types }) k).Perm (deadClasses H clauses k) := by
  obtain ⟨hlt, -⟩ := List.getElem?_eq_some_iff.1 hc
  have hset : (clauses.set k { c with types })[k]? = some { c with types } := by
    simp [hlt]
  exact (deadClasses_perm_classesOf hset).trans
    ((classesOf_deadEntries_perm h).trans (deadClasses_perm_classesOf hc).symm)

end DeadFindings

end Order

/-! ## Exactness -/

/-- **The findings about the clauses of a try are exact.** In every registry, each finding is about
    a known entry, and the reason that it gives is true; what it names as the earlier catch is the
    first one that there is. An entry has one finding within its clause if another entry makes it
    pointless there and none otherwise, and one finding across clauses if an earlier clause catches
    its class and none otherwise. The findings within clauses come first, and each group is in the
    order of the entries. The classes that are reported within a clause are the same, each as often,
    in whatever order the clause lists its types. -/
theorem ofClauses_exact (r : Registry) (clauses : List CatchClause) :
    (∀ f ∈ ofClauses r.hierarchy clauses, IsTrueOf r clauses f) ∧
    (∀ k i c type, clauses[k]? = some c → c.types[i]? = some type →
      ((DeadInUnion r c.types i type →
          (ofClauses r.hierarchy clauses).countP (isOf true k i) = 1) ∧
        (¬ DeadInUnion r c.types i type →
          (ofClauses r.hierarchy clauses).countP (isOf true k i) = 0)) ∧
      ((CaughtByEarlier r (clauses.take k) type →
          (ofClauses r.hierarchy clauses).countP (isOf false k i) = 1) ∧
        (¬ CaughtByEarlier r (clauses.take k) type →
          (ofClauses r.hierarchy clauses).countP (isOf false k i) = 0))) ∧
    (ofClauses r.hierarchy clauses).Pairwise Before ∧
    ∀ k c types, clauses[k]? = some c → types.Perm c.types →
      (deadClasses r.hierarchy (clauses.set k { c with types }) k).Perm
        (deadClasses r.hierarchy clauses k) := by
  refine ⟨?_, ?_, pairwise_ofClauses clauses, ?_⟩
  · intro f hf
    rcases List.mem_append.1 hf with hwithin | hacross
    · exact isTrueOf_of_mem_withinClauses hwithin
    · exact isTrueOf_of_mem_acrossClauses hacross
  · intro k i c type hc htype
    constructor
    · refine countP_isOf ?_
      rw [exists_isOf_iff fun _ => mem_withinClauses_iff, any_isAt_withinClauses]
      constructor
      · rintro ⟨d, other, hd, hother, houtranked⟩
        obtain rfl := Option.some.inj (hc.symm.trans hd)
        exact (exists_outranks_iff htype).1 houtranked
      · intro hdead
        exact ⟨c, type, hc, htype, (exists_outranks_iff htype).2 hdead⟩
    · refine countP_isOf ?_
      rw [exists_isOf_iff fun _ => mem_acrossClauses_iff, any_isAt_acrossClauses]
      constructor
      · rintro ⟨d, other, hd, hother, hcaught⟩
        obtain rfl := Option.some.inj (hc.symm.trans hd)
        obtain rfl := Option.some.inj (htype.symm.trans hother)
        exact caughtEarlier_iff.1 hcaught
      · intro hcaught
        exact ⟨c, type, hc, htype, caughtEarlier_iff.2 hcaught⟩
  · intro k c types hc htypes
    exact deadClasses_perm hc htypes

/-- A subtype of two classes that extend each other and these classes, with a name that nobody
    declares between them; then that name and the subtype again. -/
def circleClauses : List CatchClause :=
  [⟨[⟨"Timeout"⟩, ⟨"Gone"⟩, ⟨"fault"⟩, ⟨"Failure"⟩], 3⟩,
   ⟨[⟨"Gone"⟩, ⟨"TIMEOUT"⟩], 4⟩]

/-- In the circle the two classes make each other pointless, and the subtype too. The name that
    nobody declares is not reported. The first clause may list its types in another order. -/
theorem ofClauses_exact_circle :
    ofClauses Registry.circle.hierarchy circleClauses
      = [⟨0, 0, 3, ⟨"Timeout"⟩, .alreadyCaughtBy ⟨"fault"⟩⟩,
         ⟨0, 2, 3, ⟨"fault"⟩, .alreadyCaughtBy ⟨"Failure"⟩⟩,
         ⟨0, 3, 3, ⟨"Failure"⟩, .alreadyCaughtBy ⟨"fault"⟩⟩,
         ⟨1, 1, 4, ⟨"TIMEOUT"⟩, .unreachable ⟨"Timeout"⟩⟩] ∧
    (ofClauses Registry.circle.hierarchy circleClauses).countP (isOf true 0 2) = 1 ∧
    (ofClauses Registry.circle.hierarchy circleClauses).countP (isOf false 1 0) = 0 ∧
    FirstCaughtBy Registry.circle (circleClauses.take 1) ⟨"TIMEOUT"⟩ ⟨"Timeout"⟩ ∧
    (deadClasses Registry.circle.hierarchy
      (circleClauses.set 0 ⟨[⟨"Failure"⟩, ⟨"fault"⟩, ⟨"Gone"⟩, ⟨"Timeout"⟩], 3⟩) 0).Perm
        [⟨"Timeout"⟩, ⟨"Fault"⟩, ⟨"Failure"⟩] := by
  have hfindings : ofClauses Registry.circle.hierarchy circleClauses
      = [⟨0, 0, 3, ⟨"Timeout"⟩, .alreadyCaughtBy ⟨"fault"⟩⟩,
         ⟨0, 2, 3, ⟨"fault"⟩, .alreadyCaughtBy ⟨"Failure"⟩⟩,
         ⟨0, 3, 3, ⟨"Failure"⟩, .alreadyCaughtBy ⟨"fault"⟩⟩,
         ⟨1, 1, 4, ⟨"TIMEOUT"⟩, .unreachable ⟨"Timeout"⟩⟩] := by
    decide +kernel
  obtain ⟨htrue, hcounts, -, hperm⟩ := ofClauses_exact Registry.circle circleClauses
  obtain ⟨⟨hdead, -⟩, -⟩ := hcounts 0 2 _ ⟨"fault"⟩ rfl rfl
  obtain ⟨-, -, hnone⟩ := hcounts 1 0 _ ⟨"Gone"⟩ rfl rfl
  obtain ⟨_, _, _, _, _, hfirst⟩ := htrue
    ⟨1, 1, 4, ⟨"TIMEOUT"⟩, .unreachable ⟨"Timeout"⟩⟩ (by rw [hfindings]; simp)
  have hcircle : Registry.circle.hierarchy.isSubclass ⟨"fault"⟩ ⟨"Failure"⟩ = true := by
    decide +kernel
  refine ⟨hfindings, hdead ?_, hnone ?_, hfirst, ?_⟩
  · exact ⟨by decide +kernel, 3, ⟨"Failure"⟩, rfl, by decide +kernel,
      .inl (Registry.isSubclass_iff.1 hcircle)⟩
  · rintro ⟨hknown, -⟩
    cases hknown
  · have hclasses : deadClasses Registry.circle.hierarchy circleClauses 0
        = [⟨"Timeout"⟩, ⟨"Fault"⟩, ⟨"Failure"⟩] := by
      decide +kernel
    rw [← hclasses]
    have hreordered : [⟨"Failure"⟩, ⟨"fault"⟩, ⟨"Gone"⟩, ⟨"Timeout"⟩].Perm
        [⟨"Timeout"⟩, ⟨"Gone"⟩, ⟨"fault"⟩, (⟨"Failure"⟩ : ClassName)] := by
      decide +kernel
    exact hperm 0 ⟨[⟨"Timeout"⟩, ⟨"Gone"⟩, ⟨"fault"⟩, ⟨"Failure"⟩], 3⟩ _ rfl hreordered

end CatchFinding

end ExceptionFlow
