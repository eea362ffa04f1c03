import ExceptionFlow.Proofs.Replacement

set_option autoImplicit false

/-! # What depends on a contract

The tags of a function are read when it starts, at the throwing constructs that stand directly in
it, and when it ends. This module compares a unit with the same unit in which one function declares
something else. The other unit is accepted too (`run_redeclared`), and `reportsAt_redeclared` says
that of the nodes behind the start only those constructs and that end may be reported in another
way. -/

namespace ExceptionFlow.Checker

variable {K : Checker}

/-! ## Another contract -/

section Redeclared

variable (before : List (Node × Nat)) (contract other : Contract) (line : Nat)
  (inner : List (Node × Nat))

/-- Nothing gets out of a function as it was thrown, whatever the function declares. -/
theorem passesAlike_functions : K.PassesAlike (.function contract) (.function other) inner :=
  fun _ _ _ _ _ _ _ => rfl

/-- **A node reads the tags of a function only if it throws directly in it or ends it.** -/
theorem reportsAt_redeclared {node : Node × Nat}
    (hthrows : ¬ (node.1.isThrowing = true ∧ DirectlyInside inner))
    (hend : ¬ (node.1.isEnd = true ∧ Innermost inner)) :
    K.reportsAt (before ++ (.functionStart other, line) :: inner) node
      = K.reportsAt (before ++ (.functionStart contract, line) :: inner) node := by
  cases hthrowing : node.1.isThrowing with
  | false =>
    exact reportsAt_restarted before line (passesAlike_functions contract other inner) hthrowing
      hend
  | true =>
    obtain ⟨construct, hnode⟩ := Node.isThrowing_iff.1 hthrowing
    simp only [reportsAt, hnode, Node.role]
    by_cases hends : unmatchedEnds inner = 0
    · -- another function is open within the nodes, and its tags are the ones that count
      cases hfunction : enclosingFunction? inner with
      | none => exact absurd ⟨hthrowing, hends, hfunction⟩ hthrows
      | some nested =>
        refine escapeReports_of_around ?_ ?_ construct node.2
        · simp only [enclosingFunction?_start _ _ _ hends, hfunction, Option.getD_some]
        · simp only [enclosingTries_start _ _ _ hends]
    · refine escapeReports_of_around ?_ ?_ construct node.2
      · simp only [enclosingFunction?, openings_functionStart, if_neg hends]
      · simp only [enclosingTries, openings_functionStart, if_neg hends]

/-- The reports at a throwing construct that stands directly in a function. -/
theorem escapeReports_directlyInside (h : DirectlyInside inner) (construct : Construct)
    (throwLine : Nat) :
    K.escapeReports (before ++ (.functionStart contract, line) :: inner) construct throwLine
      = if K.isExempt contract.callable then []
        else ((K.throwModel.infer construct).toList.filter fun t =>
          K.Escapes (before ++ (.functionStart contract, line) :: inner) t).map fun t =>
            K.report throwLine .missingThrows [t] := by
  simp only [escapeReports, enclosingFunction?_start _ _ _ h.1, h.2, Option.getD_none]

theorem escapes_directlyInside (h : DirectlyInside inner) (thrown : ClassName) :
    K.Escapes (before ++ (.functionStart contract, line) :: inner) thrown
      ↔ K.policy.isChecked K.hierarchy thrown = true ∧
        (∀ clauses ∈ enclosingTries inner, ¬ Catches K.hierarchy clauses thrown) ∧
        ∀ tag ∈ contract.tags, K.hierarchy.interception tag.type thrown ≠ .always := by
  simp [Escapes, enclosingFunction?_start _ _ _ h.1, enclosingTries_start _ _ _ h.1, h.2]

/-- The end of a function is reported from its own nodes. -/
theorem reportsAt_functionEnd (hends : unmatchedEnds inner = 0) (hopen : openBodies inner = [])
    {node : Node × Nat} {kind : FrameKind} (hrole : node.1.role = .closes kind) :
    K.reportsAt (before ++ (.functionStart contract, line) :: inner) node
      = K.unusedReports contract inner node.2 := by
  have hend : node.1.isEnd = true := Node.isEnd_iff.2 ⟨kind, hrole⟩
  rw [← unusedThrows_frameOf]
  exact reportsAt_end before (.function contract) line ⟨hends, hopen⟩ hend

end Redeclared

section Units

variable {before : List (Node × Nat)} {contract other : Contract} {line : Nat}
  {rest : List (Node × Nat)}

/-- Whether a function may be entered does not depend on its tags. -/
theorem refusal?_redeclared (hcallable : other.callable = contract.callable) :
    K.refusal? (.function other) = K.refusal? (.function contract) := by
  rw [refusal?, refusal?, hcallable]

/-- A unit stays accepted and closed when a function declares something else. -/
theorem run_redeclared (hcallable : other.callable = contract.callable) {s : State}
    (h : K.run .start (before ++ (.functionStart contract, line) :: rest) = (none, s))
    (hclosed : s.scope.isEmpty = true) :
    ∃ t, K.run .start (before ++ (.functionStart other, line) :: rest) = (none, t) ∧
      t.scope.isEmpty = true :=
  @run_restarted K before (.function contract) (.function other) line rest rfl
    (refusal?_redeclared hcallable) s h hclosed

/-- The outcomes of a unit in which a function declares something else, given what becomes of the
    outcome at each position. Before the function nothing changes. -/
theorem runThrough_redeclared (hcallable : other.callable = contract.callable) {s : State}
    (h : K.run .start (before ++ (.functionStart contract, line) :: rest) = (none, s))
    {edit : Nat → Outcome → Outcome}
    (hahead : ∀ j < before.length, ∀ outcome, edit j outcome = outcome)
    (hstart : ∀ outcome, edit before.length outcome = .ok (K.uselessTags other line))
    (hbehind : ∀ inner node after, rest = inner ++ node :: after →
      edit (before.length + (inner.length + 1))
          (.ok (K.reportsAt (before ++ (.functionStart contract, line) :: inner) node))
        = .ok (K.reportsAt (before ++ (.functionStart other, line) :: inner) node)) :
    (K.runThrough .start (before ++ (.functionStart other, line) :: rest)).1
      = (K.runThrough .start (before ++ (.functionStart contract, line) :: rest)).1.mapIdx edit :=
  @runThrough_restarted K before (.function contract) (.function other) line rest rfl
    (refusal?_redeclared hcallable) s h edit hahead hstart hbehind

end Units

end ExceptionFlow.Checker
