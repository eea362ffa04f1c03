import Mathlib.Data.Fintype.Basic
import Mathlib.Data.Fintype.Card
import Mathlib.Data.Fintype.EquivFin
import ExceptionFlow.Proofs.CatchFaults
import ExceptionFlow.Proofs.Reports
import ExceptionFlow.Proofs.Subtyping

set_option autoImplicit false

/-! # Pointless entries can be taken out

A catch entry that is reported for a reason that lies in the clauses alone can be deleted. Without
all such entries (`CatchFinding.prune`) a try body catches the same types, and while it is open
everything goes the same way: the remaining entries count the same throws, the other bodies do not
notice, and the same types are left over at every throw (`Checker.pruning_preserves_records`).

What has to be shown is that the reasons do not go in circles. An entry may be outranked by one that
is outranked itself, and the clause before that catches its class may do so by an entry that is
pointless in turn. Among the entries of a clause the ranking is well-founded, since the hierarchy
has no circles and of two entries of one class the earlier counts; from clause to clause the
position goes down. So for every entry there is a live one that catches as much, in the same clause
or before (`exists_live`). -/

namespace ExceptionFlow

open CatchFinding (Outranks CaughtEarlier Pointless ofClauses isAt any_isAt_ofClauses)

/-! ## The entries that are kept -/

/-- The types at some positions of a clause, with these positions. -/
def CatchClause.kept (keep : Nat → Bool) (c : CatchClause) : List (ClassName × Nat) :=
  c.types.zipIdx.filter fun e => keep e.2

/-- A clause with its entries at some positions only. -/
def CatchClause.keeping (keep : Nat → Bool) (c : CatchClause) : CatchClause :=
  { c with types := (c.kept keep).map Prod.fst }

namespace CatchFinding

/-- Whether nothing is reported of the entry at a position. -/
def isLive (H : Hierarchy) (clauses : List CatchClause) (clause entry : Nat) : Bool :=
  !(ofClauses H clauses).any (isAt clause entry)

/-- The clauses without their pointless entries. All clauses stay, also those without an entry. -/
def prune (H : Hierarchy) (clauses : List CatchClause) : List CatchClause :=
  clauses.zipIdx.map fun c => c.1.keeping (isLive H clauses c.2)

theorem isLive_iff {H : Hierarchy} {clauses : List CatchClause} {k i : Nat} :
    isLive H clauses k i = true ↔ ¬ Pointless H clauses k i := by
  rw [isLive, Bool.not_eq_true', ← Bool.not_eq_true, any_isAt_ofClauses]

end CatchFinding

/-- An open try body without the entries that were reported when it was entered. -/
def TryRegion.unshadowed (region : TryRegion) : TryRegion :=
  ⟨region.clauses.map fun c => { c with entries := c.entries.filter fun e => !e.shadowed }⟩

open CatchFinding (isLive isLive_iff prune)

namespace CatchClause

variable {keep : Nat → Bool} {c : CatchClause}

theorem getElem?_of_mem_kept {e : ClassName × Nat} (h : e ∈ c.kept keep) :
    c.types[e.2]? = some e.1 ∧ keep e.2 = true := by
  obtain ⟨hmem, hkeep⟩ := List.mem_filter.1 h
  exact ⟨List.mem_zipIdx_iff_getElem?.1 hmem, hkeep⟩

theorem mem_types_keeping {type : ClassName} :
    type ∈ (c.keeping keep).types ↔ ∃ i, c.types[i]? = some type ∧ keep i = true := by
  constructor
  · intro h
    obtain ⟨e, he, rfl⟩ := List.mem_map.1 h
    exact ⟨e.2, getElem?_of_mem_kept he⟩
  · rintro ⟨i, htype, hkeep⟩
    have hmem : (type, i) ∈ c.kept keep :=
      List.mem_filter.2 ⟨List.mem_zipIdx_iff_getElem?.2 htype, hkeep⟩
    exact List.mem_map_of_mem hmem

/-- The kept entries stay in their order. -/
theorem pairwise_kept (keep : Nat → Bool) (c : CatchClause) :
    (c.kept keep).Pairwise fun a b => a.2 < b.2 :=
  (pairwise_zipIdx c.types).sublist List.filter_sublist

theorem getElem?_keeping {i : Nat} {type : ClassName}
    (h : (c.keeping keep).types[i]? = some type) :
    ∃ before, (c.kept keep)[i]? = some (type, before) := by
  rw [keeping, List.getElem?_map] at h
  obtain ⟨⟨_, before⟩, he, rfl⟩ := Option.map_eq_some_iff.1 h
  exact ⟨before, he⟩

/-- An entry that is outranked among those that are kept was outranked before. -/
theorem outranks_of_keeping {H : Hierarchy} {i j before : Nat} {type : ClassName}
    (hkept : (c.kept keep)[i]? = some (type, before))
    (h : Outranks H (c.keeping keep).types j i) : ∃ other, Outranks H c.types other before := by
  obtain ⟨found, resolved, other, otherResolved, hfound, hresolved, hother, hknown, hrank⟩ := h
  have hsame : found = type := by
    rw [keeping, List.getElem?_map, hkept] at hfound
    exact (Option.some.inj hfound).symm
  subst hsame
  obtain ⟨otherBefore, hotherKept⟩ := getElem?_keeping hother
  refine ⟨otherBefore, found, resolved, other, otherResolved,
    (getElem?_of_mem_kept (List.mem_of_getElem? hkept)).1, hresolved,
    (getElem?_of_mem_kept (List.mem_of_getElem? hotherKept)).1, hknown, ?_⟩
  rcases hrank with ⟨hequal, hlt⟩ | hbelow
  · obtain ⟨hi, hiEq⟩ := List.getElem?_eq_some_iff.1 hkept
    obtain ⟨hj, hjEq⟩ := List.getElem?_eq_some_iff.1 hotherKept
    have horder := List.pairwise_iff_getElem.1 (pairwise_kept keep c) j i hj hi hlt
    rw [hiEq, hjEq] at horder
    exact .inl ⟨hequal, horder⟩
  · exact .inr hbelow

end CatchClause

/-! ## Nothing is pointless any more -/

section Pruned

variable {H : Hierarchy} {clauses : List CatchClause}

theorem getElem?_prune {k : Nat} :
    (prune H clauses)[k]?
      = clauses[k]?.map (CatchClause.keeping (isLive H clauses k)) := by
  rw [prune, List.getElem?_map, List.getElem?_zipIdx, Option.map_map, Nat.zero_add]
  rfl

/-- The entries of the first clauses that are left are those that are not pointless. -/
theorem mem_take_prune {k : Nat} {type : ClassName} :
    (∃ c ∈ (prune H clauses).take k, type ∈ c.types)
      ↔ ∃ m < k, ∃ c i, clauses[m]? = some c ∧ c.types[i]? = some type ∧
          ¬ Pointless H clauses m i := by
  constructor
  · rintro ⟨c, hc, htype⟩
    obtain ⟨m, hlt, hm⟩ := mem_take_iff_getElem?.1 hc
    rw [getElem?_prune] at hm
    obtain ⟨original, horiginal, rfl⟩ := Option.map_eq_some_iff.1 hm
    obtain ⟨i, hi, hkeep⟩ := CatchClause.mem_types_keeping.1 htype
    exact ⟨m, hlt, original, i, horiginal, hi, isLive_iff.1 hkeep⟩
  · rintro ⟨m, hlt, c, i, hc, hi, hkeep⟩
    refine ⟨c.keeping (isLive H clauses m), ?_,
      CatchClause.mem_types_keeping.2 ⟨i, hi, isLive_iff.2 hkeep⟩⟩
    refine mem_take_iff_getElem?.2 ⟨m, hlt, ?_⟩
    rw [getElem?_prune, hc]
    rfl

/-- One round is enough: in what is left of the clauses no entry is pointless. -/
theorem not_pointless_prune {k i : Nat} : ¬ Pointless H (prune H clauses) k i := by
  rintro ⟨c, type, hc, htype, hreason⟩
  rw [getElem?_prune] at hc
  obtain ⟨original, horiginal, rfl⟩ := Option.map_eq_some_iff.1 hc
  obtain ⟨before, hkept⟩ := CatchClause.getElem?_keeping htype
  obtain ⟨hbefore, hkeep⟩ := CatchClause.getElem?_of_mem_kept (List.mem_of_getElem? hkept)
  have hpointless : Pointless H clauses k before := by
    refine ⟨original, type, horiginal, hbefore, ?_⟩
    rcases hreason with ⟨j, houtranks⟩ | ⟨resolved, hresolved, d, hd, other, hother, hcaught⟩
    · exact .inl (CatchClause.outranks_of_keeping hkept houtranks)
    · obtain ⟨m, hlt, e, j, he, hj, -⟩ := mem_take_prune.1 ⟨d, hd, hother⟩
      exact .inr ⟨resolved, hresolved, e, mem_take_iff_getElem?.2 ⟨m, hlt, he⟩, other,
        List.mem_of_getElem? hj, hcaught⟩
  exact isLive_iff.1 hkeep hpointless

theorem ofClauses_prune : ofClauses H (prune H clauses) = [] := by
  refine List.eq_nil_iff_forall_not_mem.2 ?_
  intro f hf
  have hat : (ofClauses H (prune H clauses)).any (isAt f.clause f.entry) = true :=
    List.any_eq_true.2 ⟨f, hf, by simp [isAt]⟩
  exact not_pointless_prune (any_isAt_ofClauses.1 hat)

theorem Checker.regionOf_prune (K : Checker) :
    K.regionOf (prune K.hierarchy clauses)
      = .shade (fun _ _ => false) (prune K.hierarchy clauses) := by
  rw [regionOf, ofClauses_prune]
  exact TryRegion.ofClauses_eq_shade _

end Pruned

/-! ## A live entry remains -/

section Live

variable {r : Registry} {types : List ClassName} {clauses : List CatchClause}

/-- In a registry, entries are ranked by the keys of their classes. -/
theorem outranks_iff {i j : Nat} :
    Outranks r.hierarchy types j i
      ↔ ∃ a b, types[i]? = some a ∧ types[j]? = some b ∧
          (r.hierarchy.resolve? a).isSome = true ∧ (r.hierarchy.resolve? b).isSome = true ∧
          (a.key = b.key ∧ j < i ∨ r.hierarchy.isSubclass a b = true) := by
  constructor
  · rintro ⟨a, resolvedA, b, resolvedB, ha, hresA, hb, hresB, hrank⟩
    refine ⟨a, b, ha, hb, Option.isSome_of_eq_some hresA, Option.isSome_of_eq_some hresB, ?_⟩
    rcases hrank with ⟨hequal, hlt⟩ | ⟨-, hsub⟩
    · exact .inl ⟨(Registry.resolved_eq_iff hresA hresB).1 hequal, hlt⟩
    · rw [Registry.isSubclass_congr (Registry.key_of_resolve? hresA)
        (Registry.key_of_resolve? hresB)] at hsub
      exact .inr hsub
  · rintro ⟨a, b, ha, hb, hknownA, hknownB, hrank⟩
    obtain ⟨resolvedA, hresA⟩ := Option.isSome_iff_exists.1 hknownA
    obtain ⟨resolvedB, hresB⟩ := Option.isSome_iff_exists.1 hknownB
    refine ⟨a, resolvedA, b, resolvedB, ha, hresA, hb, hresB, ?_⟩
    rcases hrank with ⟨hkey, hlt⟩ | hsub
    · exact .inl ⟨(Registry.resolved_eq_iff hresA hresB).2 hkey, hlt⟩
    · refine .inr ⟨?_, ?_⟩
      · intro hequal
        exact (Registry.isSubclass_iff.1 hsub).1 ((Registry.resolved_eq_iff hresA hresB).1 hequal)
      · rwa [Registry.isSubclass_congr (Registry.key_of_resolve? hresA)
          (Registry.key_of_resolve? hresB)]

theorem not_outranks_self (i : Nat) : ¬ Outranks r.hierarchy types i i := by
  intro h
  obtain ⟨a, b, ha, hb, -, -, hrank⟩ := outranks_iff.1 h
  obtain rfl := Option.some.inj (ha.symm.trans hb)
  rcases hrank with ⟨-, hlt⟩ | hsub
  · exact Nat.lt_irrefl _ hlt
  · exact (Registry.isSubclass_iff.1 hsub).1 rfl

theorem outranks_trans (hacyclic : r.Acyclic) {i j l : Nat}
    (hlj : Outranks r.hierarchy types l j) (hji : Outranks r.hierarchy types j i) :
    Outranks r.hierarchy types l i := by
  obtain ⟨a, b, ha, hb, hknownA, -, hab⟩ := outranks_iff.1 hji
  obtain ⟨b', c, hb', hc, -, hknownC, hbc⟩ := outranks_iff.1 hlj
  obtain rfl := Option.some.inj (hb.symm.trans hb')
  refine outranks_iff.2 ⟨a, c, ha, hc, hknownA, hknownC, ?_⟩
  rcases hab with ⟨hkeyAB, hltAB⟩ | hsubAB
  · rcases hbc with ⟨hkeyBC, hltBC⟩ | hsubBC
    · exact .inl ⟨hkeyAB.trans hkeyBC, hltBC.trans hltAB⟩
    · exact .inr ((Registry.isSubclass_congr hkeyAB rfl).trans hsubBC)
  · rcases hbc with ⟨hkeyBC, -⟩ | hsubBC
    · exact .inr ((Registry.isSubclass_congr rfl hkeyBC).symm.trans hsubAB)
    · exact .inr (hacyclic.isSubclass_trans hsubAB hsubBC)

theorem isSameOrSubclass_of_outranks {i j : Nat} {a b : ClassName}
    (h : Outranks r.hierarchy types j i) (ha : types[i]? = some a) (hb : types[j]? = some b) :
    r.hierarchy.isSameOrSubclass a b = true := by
  obtain ⟨a', b', ha', hb', -, -, hrank⟩ := outranks_iff.1 h
  obtain rfl := Option.some.inj (ha.symm.trans ha')
  obtain rfl := Option.some.inj (hb.symm.trans hb')
  rw [Hierarchy.isSameOrSubclass, Bool.or_eq_true, Registry.isSameClass_iff]
  exact hrank.imp And.left id

/-- Every entry of a clause is at or below one that no other outranks. -/
theorem exists_unoutranked (hacyclic : r.Acyclic) {i : Nat} {a : ClassName}
    (ha : types[i]? = some a) :
    ∃ j b, types[j]? = some b ∧ r.hierarchy.isSameOrSubclass a b = true ∧
      ¬ ∃ other, Outranks r.hierarchy types other j := by
  have htrans : IsTrans (Fin types.length) fun j i => Outranks r.hierarchy types j i :=
    ⟨fun _ _ _ => outranks_trans hacyclic⟩
  have hirrefl : Std.Irrefl fun j i : Fin types.length => Outranks r.hierarchy types j i :=
    ⟨fun i => not_outranks_self i⟩
  have hwf : WellFounded fun j i : Fin types.length => Outranks r.hierarchy types j i :=
    Finite.wellFounded_of_trans_of_irrefl _
  obtain ⟨hi, rfl⟩ := List.getElem?_eq_some_iff.1 ha
  -- the induction goes up the ranking: an entry is settled once those that outrank it are
  refine hwf.induction
    (C := fun i => ∃ j b, types[j]? = some b ∧
      r.hierarchy.isSameOrSubclass (types.get i) b = true ∧
      ¬ ∃ other, Outranks r.hierarchy types other j) ⟨i, hi⟩ ?_
  intro i ih
  by_cases h : ∃ other, Outranks r.hierarchy types other i
  · obtain ⟨other, hother⟩ := h
    obtain ⟨-, b, -, hb, -⟩ := outranks_iff.1 hother
    obtain ⟨hlt, rfl⟩ := List.getElem?_eq_some_iff.1 hb
    obtain ⟨j, top, htop, hbelow, hfree⟩ := ih ⟨other, hlt⟩ hother
    have hstep := isSameOrSubclass_of_outranks hother (List.getElem?_eq_getElem i.2) hb
    exact ⟨j, top, htop, Registry.isSameOrSubclass_trans hstep hbelow, hfree⟩
  · exact ⟨i, types.get i, List.getElem?_eq_getElem i.2,
      Registry.isSameOrSubclass_iff.2 .refl, h⟩

theorem exists_of_caughtEarlier {earlier : List CatchClause} {type : ClassName}
    (h : CaughtEarlier r.hierarchy earlier type) :
    ∃ c ∈ earlier, ∃ other ∈ c.types, r.hierarchy.isSameOrSubclass type other = true := by
  obtain ⟨resolved, hresolved, c, hc, other, hother, otherResolved, hknown, hsub⟩ := h
  refine ⟨c, hc, other, hother, ?_⟩
  rw [Registry.isSameOrSubclass_iff] at hsub ⊢
  rwa [Registry.key_of_resolve? hresolved, Registry.key_of_resolve? hknown] at hsub

/-- **For every entry there is a live one that catches as much**, in its clause or in one before. -/
theorem exists_live (hacyclic : r.Acyclic) (k : Nat) :
    ∀ {c : CatchClause} {type thrown : ClassName}, clauses[k]? = some c → type ∈ c.types →
      r.hierarchy.interception type thrown = .always →
      ∃ m ≤ k, ∃ d j other, clauses[m]? = some d ∧ d.types[j]? = some other ∧
        ¬ Pointless r.hierarchy clauses m j ∧
        r.hierarchy.interception other thrown = .always := by
  induction k using Nat.strongRecOn with
  | ind k ih =>
    intro c type thrown hc htype halways
    obtain ⟨i, hi⟩ := List.mem_iff_getElem?.1 htype
    obtain ⟨j, top, htop, hbelow, hfree⟩ := exists_unoutranked hacyclic hi
    rw [Hierarchy.interception_eq_always_iff] at halways
    have hcatches := Registry.isSameOrSubclass_trans halways hbelow
    by_cases hcaught : CaughtEarlier r.hierarchy (clauses.take k) top
    · -- nothing in the clause outranks `top`, but a clause before catches it
      obtain ⟨d, hd, other, hother, habove⟩ := exists_of_caughtEarlier hcaught
      obtain ⟨m, hlt, hm⟩ := mem_take_iff_getElem?.1 hd
      have hother' := Registry.isSameOrSubclass_trans hcatches habove
      obtain ⟨m', hle, hrest⟩ :=
        ih m hlt hm hother (Hierarchy.interception_eq_always_iff.2 hother')
      exact ⟨m', hle.trans (Nat.le_of_lt hlt), hrest⟩
    · refine ⟨k, Nat.le_refl k, c, j, top, hc, htop, ?_,
        Hierarchy.interception_eq_always_iff.2 hcatches⟩
      rintro ⟨c', top', hc', htop', hreason⟩
      obtain rfl := Option.some.inj (hc.symm.trans hc')
      obtain rfl := Option.some.inj (htop.symm.trans htop')
      exact hreason.elim hfree hcaught

/-- What the first clauses catch is not changed by pruning. -/
theorem catches_take_prune (hacyclic : r.Acyclic) (k : Nat) (thrown : ClassName) :
    Catches r.hierarchy ((prune r.hierarchy clauses).take k) thrown
      ↔ Catches r.hierarchy (clauses.take k) thrown := by
  constructor
  · rintro ⟨c, hc, type, htype, halways⟩
    obtain ⟨m, hlt, d, i, hd, hi, -⟩ := mem_take_prune.1 ⟨c, hc, htype⟩
    exact ⟨d, mem_take_iff_getElem?.2 ⟨m, hlt, hd⟩, type, List.mem_of_getElem? hi, halways⟩
  · rintro ⟨c, hc, type, htype, halways⟩
    obtain ⟨m, hlt, hm⟩ := mem_take_iff_getElem?.1 hc
    obtain ⟨m', hle, d, j, other, hd, hj, hlive, halways'⟩ :=
      exists_live hacyclic m hm htype halways
    obtain ⟨e, he, hother⟩ :=
      mem_take_prune.2 ⟨m', Nat.lt_of_le_of_lt hle hlt, d, j, hd, hj, hlive⟩
    exact ⟨e, he, other, hother, halways'⟩

theorem catches_prune (hacyclic : r.Acyclic) (thrown : ClassName) :
    Catches r.hierarchy (prune r.hierarchy clauses) thrown
      ↔ Catches r.hierarchy clauses thrown := by
  have hlength : (prune r.hierarchy clauses).length = clauses.length := by simp [prune]
  have h := @catches_take_prune r clauses hacyclic clauses.length thrown
  rwa [List.take_length, ← hlength, List.take_length] at h

end Live

/-! ## Throws into the try body -/

section Throws

variable (H : Hierarchy)

/-- What the entries without a mark have counted. -/
theorem unshadowed_passAll_shade (types : List ClassName) (marked : Nat → Nat → Bool)
    (clauses : List CatchClause) :
    TryRegion.unshadowed
        ⟨(clauseRelay H).passAll types (TryRegion.shade marked clauses).clauses⟩
      = ⟨clauses.zipIdx.map fun c =>
          ⟨c.1.line, (c.1.kept fun i => !marked c.2 i).map fun e =>
            Checker.observedEntry H types marked clauses c.2 e.2 e.1⟩⟩ := by
  rw [Checker.passAll_shade, TryRegion.unshadowed, List.map_map]
  congr 1
  refine List.map_congr_left ?_
  intro c _
  rw [Function.comp_apply, List.filter_map]
  rfl

/-- What the entries that are left by pruning have counted. -/
theorem passAll_shade_prune (types : List ClassName) (clauses : List CatchClause) :
    (clauseRelay H).passAll types (TryRegion.shade (fun _ _ => false) (prune H clauses)).clauses
      = clauses.zipIdx.map fun c =>
          ⟨c.1.line, (c.1.kept (isLive H clauses c.2)).map fun e =>
            Checker.observedEntry H types (fun _ _ => false) (prune H clauses) c.2 e.2 e.1⟩ := by
  rw [Checker.passAll_shade]
  apply List.ext_getElem?
  intro k
  simp only [List.getElem?_map, List.getElem?_zipIdx, getElem?_prune, Nat.zero_add]
  cases clauses[k]? with
  | none => rfl
  | some c =>
    -- without marks an entry does not depend on its position in the clause
    have hentries : ((c.keeping (isLive H clauses k)).types.zipIdx.map fun e =>
          Checker.observedEntry H types (fun _ _ => false) (prune H clauses) k e.2 e.1)
        = (c.kept (isLive H clauses k)).map fun e =>
            Checker.observedEntry H types (fun _ _ => false) (prune H clauses) k e.2 e.1 :=
      (map_zipIdx_fst
        (fun type => Checker.observedEntry H types (fun _ _ => false) (prune H clauses) k 0 type)
        _).trans List.map_map
    simp only [Option.map_some, hentries]
    rfl

/-- A try body from which the marked entries are taken out after the throws is as if they had not
    been there in the first place. -/
theorem unshadowed_passAll {r : Registry} (hacyclic : r.Acyclic) (types : List ClassName)
    (clauses : List CatchClause) :
    TryRegion.unshadowed ⟨(clauseRelay r.hierarchy).passAll types
        (TryRegion.shade (fun k i => (ofClauses r.hierarchy clauses).any (isAt k i))
          clauses).clauses⟩
      = ⟨(clauseRelay r.hierarchy).passAll types
          (TryRegion.shade (fun _ _ => false) (prune r.hierarchy clauses)).clauses⟩ := by
  rw [unshadowed_passAll_shade, passAll_shade_prune]
  congr 1
  refine List.map_congr_left ?_
  rintro ⟨c, k⟩ -
  congr 1
  refine List.map_congr_left ?_
  intro e he
  have hunmarked : (ofClauses r.hierarchy clauses).any (isAt k e.2) = false := by
    simpa using (CatchClause.getElem?_of_mem_kept he).2
  simp only [Checker.observedEntry, Checker.observedTypes, hunmarked, catches_take_prune hacyclic]

/-- What is accepted depends on a try body only by what it catches. -/
theorem accepted_around {region other : TryRegion} {thrown : ClassName}
    (h : other.catches H thrown = region.catches H thrown) (inside outside : List Frame) :
    accepted H thrown (inside ++ .tryBody other :: outside)
      = accepted H thrown (inside ++ .tryBody region :: outside) := by
  induction inside with
  | nil => simp only [List.nil_append, accepted, h]
  | cons f rest ih =>
    cases f with
    | functionBody body => rfl
    | tryBody inner => simp only [List.cons_append, accepted, ih]

theorem boundary_around (region other : TryRegion) (inside outside : List Frame) :
    Scope.boundary (inside ++ .tryBody other :: outside)
      = Scope.boundary (inside ++ .tryBody region :: outside) := by
  induction inside with
  | nil => rfl
  | cons f rest ih =>
    cases f with
    | functionBody body => rfl
    | tryBody inner => exact ih

/-- The frames around a try body after throws, with the region itself. -/
theorem passAll_around (types : List ClassName) (region : TryRegion) (inside outside : List Frame) :
    (frameRelay H).passAll types (inside ++ .tryBody region :: outside)
      = (frameRelay H).passAll types inside ++
          .tryBody ⟨(clauseRelay H).passAll
            (types.filter fun t => !inside.any (Frame.stops H t)) region.clauses⟩ ::
          (frameRelay H).passAll
            ((types.filter fun t => !inside.any (Frame.stops H t)).filter fun t =>
              !region.catches H t) outside := by
  rw [Relay.passAll_append_stations, Relay.passAll_cons, noteAll_tryBody]
  rfl

end Throws

namespace Checker

/-- **Pointless entries can be taken out of a try.** In a registry without circles, the try body
    without them catches exactly what it catches with them. Whatever is thrown while it is open, at
    whatever places, the same types are left over each time, all frames inside and outside of it are
    the same, and its own clauses differ in nothing but the entries taken out. -/
theorem pruning_preserves_records (K : Checker) {r : Registry}
    (hregistry : K.hierarchy = r.hierarchy) (hacyclic : r.Acyclic) (clauses : List CatchClause) :
    (∀ thrown, (K.regionOf (prune K.hierarchy clauses)).catches K.hierarchy thrown
      = (K.regionOf clauses).catches K.hierarchy thrown) ∧
    ∀ (throws : List TypeSet) (inside outside : List Frame),
      ∃ residuals inside' region outside', inside'.length = inside.length ∧
        Scope.recordEach K.hierarchy throws
            ⟨inside ++ .tryBody (K.regionOf clauses) :: outside⟩
          = (residuals, ⟨inside' ++ .tryBody region :: outside'⟩) ∧
        Scope.recordEach K.hierarchy throws
            ⟨inside ++ .tryBody (K.regionOf (prune K.hierarchy clauses)) :: outside⟩
          = (residuals, ⟨inside' ++ .tryBody region.unshadowed :: outside'⟩) := by
  have hcatches (thrown : ClassName) :
      (K.regionOf (prune K.hierarchy clauses)).catches K.hierarchy thrown
        = (K.regionOf clauses).catches K.hierarchy thrown := by
    rw [regionOf_prune, regionOf_eq_shade, TryRegion.catches_shade, TryRegion.catches_shade,
      hregistry]
    exact decide_eq_decide.2 (catches_prune hacyclic thrown)
  refine ⟨hcatches, ?_⟩
  intro throws inside outside
  have hrecords := recordEach_eq K.hierarchy throws
    (inside ++ .tryBody (K.regionOf clauses) :: outside)
  rw [passAll_around] at hrecords
  refine ⟨_, _, _, _, Relay.length_passAll _ _ inside, hrecords, ?_⟩
  have haccepted (t : ClassName) := accepted_around K.hierarchy (hcatches t) inside outside
  simp only [recordEach_eq, passAll_around, haccepted, hcatches,
    boundary_around (K.regionOf clauses)]
  rw [regionOf_prune, regionOf_eq_shade, hregistry, unshadowed_passAll hacyclic]

/-- The classes that `small` knows. -/
def smallRegistry : Registry :=
  [Registry.throwable "RuntimeException" "Exception",
    Registry.throwable "RangeException" "RuntimeException",
    Registry.throwable "LogicException" "Exception",
    Registry.throwable "DomainException" "LogicException"].foldl Registry.addClass .empty

theorem smallRegistry_acyclic : smallRegistry.Acyclic :=
  Registry.acyclic_of_rank
    ["exception", "runtimeexception", "logicexception", "rangeexception", "domainexception"].idxOf
    (by decide +kernel)

/-- Clauses with entries that are pointless on account of pointless ones: the first is below a
    repetition, and the second clause is caught by it. -/
def chainedClauses : List CatchClause :=
  [⟨[⟨"RangeException"⟩, ⟨"RuntimeException"⟩, ⟨"runtimeException"⟩], 5⟩,
   ⟨[⟨"RangeException"⟩], 6⟩,
   ⟨[⟨"LogicException"⟩], 7⟩]

/-- A throw at two places, one of them of two types. -/
def twoThrows : List TypeSet :=
  [.ofList [⟨"RangeException"⟩, ⟨"DomainException"⟩], .ofList [⟨"Exception"⟩]]

/-- Three entries go at once, and the other two count the throws as before. -/
theorem pruning_preserves_records_chained :
    small.hierarchy = smallRegistry.hierarchy ∧ smallRegistry.Acyclic ∧
    prune small.hierarchy chainedClauses
      = [⟨[⟨"RuntimeException"⟩], 5⟩, ⟨[], 6⟩, ⟨[⟨"LogicException"⟩], 7⟩] ∧
    (small.regionOf (prune small.hierarchy chainedClauses)).catches small.hierarchy
        ⟨"RangeException"⟩
      = (small.regionOf chainedClauses).catches small.hierarchy ⟨"RangeException"⟩ ∧
    ∃ residuals region,
      Scope.recordEach small.hierarchy twoThrows ⟨[.tryBody (small.regionOf chainedClauses)]⟩
        = (residuals, ⟨[.tryBody region]⟩) ∧
      Scope.recordEach small.hierarchy twoThrows
          ⟨[.tryBody (small.regionOf (prune small.hierarchy chainedClauses))]⟩
        = (residuals, ⟨[.tryBody region.unshadowed]⟩) := by
  have hregistry : small.hierarchy = smallRegistry.hierarchy := rfl
  have hpruned : prune small.hierarchy chainedClauses
      = [⟨[⟨"RuntimeException"⟩], 5⟩, ⟨[], 6⟩, ⟨[⟨"LogicException"⟩], 7⟩] := by
    decide +kernel
  obtain ⟨hcatches, hrecords⟩ :=
    pruning_preserves_records small hregistry smallRegistry_acyclic chainedClauses
  obtain ⟨residuals, inside, region, outside, hinside, hbefore, hafter⟩ := hrecords twoThrows [] []
  obtain rfl := List.eq_nil_of_length_eq_zero hinside
  have hlength : (Scope.recordEach small.hierarchy twoThrows
      ⟨[.tryBody (small.regionOf chainedClauses)]⟩).2.frames.length = 1 := by
    decide +kernel
  rw [List.nil_append] at hbefore
  rw [hbefore] at hlength
  obtain rfl := List.eq_nil_of_length_eq_zero (Nat.succ.inj hlength)
  exact ⟨hregistry, smallRegistry_acyclic, hpruned, hcatches _, residuals, region, hbefore, hafter⟩

end Checker

end ExceptionFlow
