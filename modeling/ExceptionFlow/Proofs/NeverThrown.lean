import ExceptionFlow.Proofs.CatchFaults
import ExceptionFlow.Proofs.Reports
import ExceptionFlow.Proofs.Subtyping

set_option autoImplicit false

/-! # What a report of "never thrown" promises

At the end of a try body an entry is reported if nothing came to it. The question is what follows
for the values that are thrown at run time: a thrown type stands for all its subtypes, and a value
may be of one that the entry would catch.

For a thrown type that is related to the entry, the same, a subtype or a supertype, the report is
right. Every class at or below the thrown type is caught on its way, by a try inside the body or by
an earlier clause (`neverThrown_entries_intercept_nothing`). For unrelated types it need not be:
with interfaces, two types of which neither is below the other can have a subtype in common, and
interception does not look for one (`neverThrown_entry_shares_subclass`). -/

namespace ExceptionFlow

/-! ## Catching a type is catching its subtypes -/

theorem Catches.of_subclass {r : Registry} {clauses : List CatchClause} {thrown special : ClassName}
    (h : Catches r.hierarchy clauses thrown)
    (hspecial : r.hierarchy.isSameOrSubclass special thrown = true) :
    Catches r.hierarchy clauses special := by
  obtain ⟨c, hc, e, he, halways⟩ := h
  exact ⟨c, hc, e, he, Registry.interception_always_of_subclass halways hspecial⟩

theorem Catches.mono {H : Hierarchy} {clauses more : List CatchClause} {thrown : ClassName}
    (h : Catches H clauses thrown) (hsub : clauses ⊆ more) : Catches H more thrown := by
  obtain ⟨c, hc, hcatches⟩ := h
  exact ⟨c, hsub hc, hcatches⟩

namespace Checker

variable (K : Checker)

/-- A value thrown behind the nodes `inner` of a try body does not come to the clause at a position:
    a try around it catches it first, or a clause before. -/
def CaughtOnTheWay (inner : List (Node × Nat)) (clauses : List CatchClause) (clause : Nat)
    (thrown : ClassName) : Prop :=
  (∃ inside ∈ enclosingTries inner, Catches K.hierarchy inside thrown) ∨
    Catches K.hierarchy (clauses.take clause) thrown

instance (inner : List (Node × Nat)) (clauses : List CatchClause) (clause : Nat)
    (thrown : ClassName) : Decidable (K.CaughtOnTheWay inner clauses clause thrown) :=
  inferInstanceAs (Decidable (_ ∨ _))

variable {K}

/-! ## The entry behind a report -/

/-- The end of a try body is accepted, with a report for each entry that is there for nothing. -/
theorem fst_step_tryEnd {before body : List (Node × Nat)} {clauses : List CatchClause}
    {startLine : Nat} {s : State} (hbody : Balanced body)
    (h : K.run .start (before ++ (.tryStart clauses, startLine) :: body) = (none, s))
    (hholds : K.CountersHold clauses body) (line : Nat) :
    (K.step s .tryEnd line).1 = .ok (K.neverThrownReports clauses body) := by
  obtain ⟨scope, hstep⟩ := step_endNode K (.tryBody clauses) hbody h line
  rw [neverThrown_frameOf hholds] at hstep
  exact congrArg Prod.fst hstep

theorem mem_neverThrownReports {clauses : List CatchClause} {body : List (Node × Nat)} {line : Nat}
    {type : ClassName} :
    K.report line .neverThrown [type] ∈ K.neverThrownReports clauses body
      ↔ ∃ k c i, clauses[k]? = some c ∧ c.line = line ∧ c.types[i]? = some type ∧
          K.NeverThrownIn clauses body k i type := by
  simp only [neverThrownReports, List.mem_flatMap, List.mem_map, List.mem_filter,
    decide_eq_true_iff]
  constructor
  · rintro ⟨⟨c, k⟩, hc, ⟨e, i⟩, ⟨he, hnever⟩, hreport⟩
    simp only [report, Diagnostic.mk.injEq, List.cons.injEq] at hreport
    obtain ⟨-, rfl, -, rfl, -⟩ := hreport
    exact ⟨k, c, i, List.mem_zipIdx_iff_getElem?.1 hc, rfl, List.mem_zipIdx_iff_getElem?.1 he,
      hnever⟩
  · rintro ⟨k, c, i, hc, rfl, he, hnever⟩
    exact ⟨(c, k), List.mem_zipIdx_iff_getElem?.2 hc, (type, i),
      ⟨List.mem_zipIdx_iff_getElem?.2 he, hnever⟩, rfl⟩

/-- An entry that is there for nothing is in the first clause that names its type. -/
theorem NeverThrownIn.le_of_mem {clauses : List CatchClause} {body : List (Node × Nat)}
    {k i m : Nat} {c d : CatchClause} {type : ClassName}
    (h : K.NeverThrownIn clauses body k i type) (hc : clauses[k]? = some c)
    (hi : c.types[i]? = some type) (hd : clauses[m]? = some d) (htype : type ∈ d.types) :
    k ≤ m := by
  refine Nat.le_of_not_lt ?_
  intro hlt
  obtain ⟨⟨resolved, hresolved, -⟩, hunreported, -⟩ := h
  have hself := K.hierarchy.isSameOrSubclass_refl resolved
  have hpointless : CatchFinding.Pointless K.hierarchy clauses k i := by
    have hearlier : d ∈ clauses.take k := mem_take_iff_getElem?.2 ⟨m, hlt, hd⟩
    exact ⟨c, type, hc, hi,
      .inr ⟨resolved, hresolved, d, hearlier, type, htype, resolved, hresolved, hself⟩⟩
  obtain ⟨f, hf, hat⟩ := List.any_eq_true.1 (CatchFinding.any_isAt_ofClauses.2 hpointless)
  simp only [CatchFinding.isAt, Bool.and_eq_true, beq_iff_eq] at hat
  exact hunreported f hf hat

/-! ## Related types -/

/-- What a construct in the body throws in relation to an entry that is there for nothing is caught
    on its way. -/
theorem NeverThrownIn.caughtOnTheWay {clauses : List CatchClause} {inner after : List (Node × Nat)}
    {construct : Construct} {line k i : Nat} {type thrown : ClassName}
    (h : K.NeverThrownIn clauses (inner ++ (.throwing construct, line) :: after) k i type)
    (hdirect : enclosingFunction? inner = none) (hthrown : thrown ∈ K.throwModel.infer construct)
    (hrelated : K.hierarchy.interception type thrown ≠ .never) :
    K.CaughtOnTheWay inner clauses k thrown := by
  by_cases hinside : ∃ inside ∈ enclosingTries inner, Catches K.hierarchy inside thrown
  · exact .inl hinside
  · have hleaves := leaves_of_uncaught hdirect hthrown
      (fun inside hmem hcatches => hinside ⟨inside, hmem, hcatches⟩) line after
    refine .inr (Decidable.byContradiction fun huncaught => ?_)
    exact h.2.2 ⟨thrown, hleaves, hrelated, huncaught⟩

theorem CaughtOnTheWay.of_subclass {r : Registry} (hregistry : K.hierarchy = r.hierarchy)
    {inner : List (Node × Nat)} {clauses : List CatchClause} {k m : Nat}
    {thrown special : ClassName} (h : K.CaughtOnTheWay inner clauses k thrown) (hle : k ≤ m)
    (hspecial : K.hierarchy.isSameOrSubclass special thrown = true) :
    K.CaughtOnTheWay inner clauses m special := by
  rw [CaughtOnTheWay, hregistry] at h ⊢
  rw [hregistry] at hspecial
  rcases h with ⟨inside, hmem, hcatches⟩ | hearlier
  · exact .inl ⟨inside, hmem, hcatches.of_subclass hspecial⟩
  · exact .inr ((hearlier.of_subclass hspecial).mono (List.take_subset_take_left clauses hle))

/-- **What an entry reported as never thrown is related to does not reach it.** When a try body ends
    in which no counter has run over, and the report names a type of one of its clauses, take any
    construct directly in the body and any type that it throws, at, below or above the reported one.
    Every class at or below the thrown type is then caught by a try inside the body around the
    construct or by a clause before. -/
theorem neverThrown_entries_intercept_nothing (K : Checker) {r : Registry}
    (hregistry : K.hierarchy = r.hierarchy) {before body : List (Node × Nat)}
    {clauses : List CatchClause} {startLine : Nat} {s : State} (hbody : Balanced body)
    (h : K.run .start (before ++ (.tryStart clauses, startLine) :: body) = (none, s))
    (hholds : K.CountersHold clauses body) (line : Nat) :
    ∃ found, (K.step s .tryEnd line).1 = .ok found ∧
      ∀ (k : Nat) (c : CatchClause) (type : ClassName), clauses[k]? = some c → type ∈ c.types →
        K.report c.line .neverThrown [type] ∈ found →
        ∀ (inner : List (Node × Nat)) (construct : Construct) (throwLine : Nat)
          (after : List (Node × Nat)) (thrown special : ClassName),
          body = inner ++ (.throwing construct, throwLine) :: after →
          enclosingFunction? inner = none → thrown ∈ K.throwModel.infer construct →
          K.hierarchy.isSameOrSubclass thrown type = true ∨
            K.hierarchy.isSubclass type thrown = true →
          K.hierarchy.isSameOrSubclass special thrown = true →
          K.CaughtOnTheWay inner clauses k special := by
  refine ⟨K.neverThrownReports clauses body, fst_step_tryEnd hbody h hholds line, ?_⟩
  intro k c type hc htype hreport inner construct throwLine after thrown special hsplit hdirect
    hthrown hrelated hspecial
  obtain ⟨first, d, i, hd, -, hi, hnever⟩ := mem_neverThrownReports.1 hreport
  have hle : first ≤ k := hnever.le_of_mem hd hi hc htype
  subst hsplit
  have hintercepts : K.hierarchy.interception type thrown ≠ .never := by
    rw [Hierarchy.interception]
    rcases hrelated with hbelow | habove
    · simp [hbelow]
    · rw [if_pos habove]
      split <;> simp
  exact (hnever.caughtOnTheWay hdirect hthrown hintercepts).of_subclass hregistry hle hspecial

/-- Of what a try inside the body catches, nothing comes to an entry above it. -/
theorem neverThrown_entries_intercept_nothing_inside :
    small.CountersHold twoClauses partlyCaught ∧
    ∃ s found, small.run .start ([] ++ (.tryStart twoClauses, 1) :: partlyCaught) = (none, s) ∧
      (small.step s .tryEnd 6).1 = .ok found ∧
      small.report 7 .neverThrown [⟨"RuntimeException"⟩] ∈ found ∧
      small.hierarchy.isSameOrSubclass ⟨"RangeException"⟩ ⟨"RuntimeException"⟩ = true ∧
      small.CaughtOnTheWay (partlyCaught.take 1) twoClauses 0 ⟨"RangeException"⟩ := by
  have hrun : (small.run .start ([] ++ (.tryStart twoClauses, 1) :: partlyCaught)).1 = none := by
    decide +kernel
  have hbelow : small.hierarchy.isSameOrSubclass ⟨"RangeException"⟩ ⟨"RuntimeException"⟩
      = true := by
    decide +kernel
  have hreported : small.report 7 .neverThrown [⟨"RuntimeException"⟩]
      ∈ small.neverThrownReports twoClauses partlyCaught := by
    decide +kernel
  obtain ⟨found, hstep, hcaught⟩ :=
    neverThrown_entries_intercept_nothing small rfl balanced_partlyCaught (run_eq_of_fst hrun)
      countersHold_partlyCaught 6
  have hfound : found = small.neverThrownReports twoClauses partlyCaught :=
    Except.ok.inj (hstep.symm.trans (fst_step_tryEnd balanced_partlyCaught (run_eq_of_fst hrun)
      countersHold_partlyCaught 6))
  rw [← hfound] at hreported
  refine ⟨countersHold_partlyCaught, _, found, run_eq_of_fst hrun, hstep, hreported, hbelow, ?_⟩
  exact hcaught 0 ⟨[⟨"RuntimeException"⟩], 7⟩ ⟨"RuntimeException"⟩ rfl List.mem_cons_self hreported
    (partlyCaught.take 1) (.throw (.object ⟨"RangeException"⟩)) 3 (partlyCaught.drop 2)
    ⟨"RangeException"⟩ ⟨"RangeException"⟩ rfl rfl (TypeSet.mem_def.2 (by decide +kernel))
    (.inl hbelow) (by decide +kernel)

/-! ## Unrelated types -/

/-- Errors of which some, but not all, are worth another attempt. -/
def retryRegistry : Registry :=
  [.bare ⟨"Throwable"⟩ .interface,
    (ClassDecl.bare ⟨"Exception"⟩ .concrete).implementing ⟨"Throwable"⟩,
    (ClassDecl.bare ⟨"Retryable"⟩ .interface).extending ⟨"Throwable"⟩,
    (ClassDecl.bare ⟨"HttpError"⟩ .concrete).extending ⟨"Exception"⟩,
    ((ClassDecl.bare ⟨"Timeout"⟩ .concrete).extending ⟨"HttpError"⟩).implementing
      ⟨"Retryable"⟩].foldl Registry.addClass .empty

def retrying : Checker := { small with hierarchy := retryRegistry.hierarchy }

def retryClauses : List CatchClause := [⟨[⟨"Retryable"⟩], 3⟩]

/-- **An entry may be reported although it catches what is thrown.** In a hierarchy without circles,
    a body throws errors of one class and the clause names an interface. Some of the errors
    implement it, and nothing catches them before; yet the entry is reported. -/
theorem neverThrown_entry_shares_subclass :
    retryRegistry.Acyclic ∧
    ∃ s, retrying.run .start [(.tryStart retryClauses, 1), (.throwNew ⟨"HttpError"⟩, 2)]
        = (none, s) ∧
      (retrying.step s .tryEnd 3).1 = .ok [retrying.report 3 .neverThrown [⟨"Retryable"⟩]] ∧
      (retrying.throwModel.infer (.throw (.object ⟨"HttpError"⟩))).toList = [⟨"HttpError"⟩] ∧
      retrying.hierarchy.knows ⟨"Timeout"⟩ = true ∧
      retrying.hierarchy.isSameOrSubclass ⟨"Timeout"⟩ ⟨"HttpError"⟩ = true ∧
      retrying.hierarchy.isSameOrSubclass ⟨"Timeout"⟩ ⟨"Retryable"⟩ = true ∧
      ¬ retrying.CaughtOnTheWay [] retryClauses 0 ⟨"Timeout"⟩ := by
  have hacyclic : retryRegistry.Acyclic :=
    Registry.acyclic_of_rank
      ["throwable", "exception", "retryable", "httperror", "timeout"].idxOf (by decide +kernel)
  have hbody : Balanced [(.throwNew ⟨"HttpError"⟩, 2)] := .throwing .nil
  have hrun : (retrying.run .start
      ([] ++ (.tryStart retryClauses, 1) :: [(.throwNew ⟨"HttpError"⟩, 2)])).1 = none := by
    decide +kernel
  have hreports : retrying.neverThrownReports retryClauses [(.throwNew ⟨"HttpError"⟩, 2)]
      = [retrying.report 3 .neverThrown [⟨"Retryable"⟩]] := by
    decide +kernel
  have hstep := fst_step_tryEnd hbody (run_eq_of_fst hrun)
    (countersHold_of_length_leaving (by decide +kernel)) 3
  rw [hreports] at hstep
  refine ⟨hacyclic, _, run_eq_of_fst hrun, hstep, ?_⟩
  decide +kernel

end Checker

end ExceptionFlow
