import ExceptionFlow.Proofs.Run

set_option autoImplicit false

/-! # Refused nodes

`Checker.Refuses` says when a node is refused, as `Checker.Accepts` says what an accepted one does.
It reads no more of the scope than the kinds of the open frames. A refused node changes nothing, so
that a host may go on behind it: `refused_nodes_leave_no_trace` compares the check of all nodes with
the check of those alone that are accepted.

The outcomes of nodes that are visited one after the other do not depend on what was reported
before. `Checker.visitAll` gives them from the scope alone, and both ways of checking a unit are
read off it (`runThrough_eq`, `run_fst`). -/

namespace ExceptionFlow

/-- Why a node is refused, if it is. -/
def Outcome.error? : Outcome → Option CheckError
  | .ok _ => none
  | .error e => some e

/-- The diagnostics of a node with some codes. -/
def Outcome.reported (codes : List Code) (outcome : Outcome) : List Diagnostic :=
  outcome.diagnostics.filter fun d => d.code ∈ codes

theorem Outcome.reported_eq_nil {codes : List Code} {found : List Diagnostic}
    (h : ∀ d ∈ found, d.code ∉ codes) : Outcome.reported codes (.ok found) = [] := by
  refine List.filter_eq_nil_iff.2 ?_
  intro d hd hcode
  exact h d hd (of_decide_eq_true hcode)

namespace Checker

variable (K : Checker)

/-! ## Why a node is refused -/

/-- Why a node is refused where frames of some kinds are open, the innermost first: it ends a body
    that is not the innermost one, or it starts a method that its class is known not to declare. -/
inductive Refuses (line : Nat) (kinds : List FrameKind) : Role → CheckError → Prop where
  | unmatched {kind : FrameKind} (mismatch : kinds.head? ≠ some kind) :
      Refuses line kinds (.closes kind) (.frameMismatch line ⟨kind, kinds.head?⟩)
  | undeclared {contract : Contract} {owner : ClassName} {method : String} {d : ClassDecl}
      (isMethod : contract.callable = .method owner method)
      (known : K.hierarchy.find? owner = some d) (missing : d.ownMethod? method = none) :
      Refuses line kinds (.opens (.function contract)) (.undeclaredMethod owner method)

variable {K}

theorem isUndeclaredMethod_iff {owner : ClassName} {method : String} :
    K.isUndeclaredMethod owner method = true
      ↔ ∃ d, K.hierarchy.find? owner = some d ∧ d.ownMethod? method = none := by
  simp [isUndeclaredMethod, Option.any_eq_true]

theorem refusal?_eq_some_iff {line : Nat} {kinds : List FrameKind} {start : Opening}
    {e : CheckError} :
    K.refusal? start = some e ↔ K.Refuses line kinds (.opens start) e := by
  constructor
  · intro h
    cases start with
    | tryBody clauses => cases h
    | function contract =>
      cases hcallable : contract.callable with
      | function name => simp [refusal?, hcallable] at h
      | closure => simp [refusal?, hcallable] at h
      | method owner method =>
        simp only [refusal?, hcallable] at h
        split at h
        · rename_i hundeclared
          obtain ⟨d, known, missing⟩ := isUndeclaredMethod_iff.1 hundeclared
          cases h
          exact .undeclared hcallable known missing
        · cases h
  · intro h
    cases h with
    | undeclared isMethod known missing =>
      have hundeclared := isUndeclaredMethod_iff.2 ⟨_, known, missing⟩
      simp [refusal?, isMethod, hundeclared]

/-- **A node is refused exactly as the relation says, and then the scope stays as it was.** -/
theorem visit_eq_error_iff {frames : List Frame} {after : Scope} {node : Node} {line : Nat}
    {e : CheckError} :
    K.visit ⟨frames⟩ node line = (.error e, after)
      ↔ K.Refuses line (frames.map Frame.kind) node.role e ∧ after = ⟨frames⟩ := by
  cases hrole : node.role with
  | opens start =>
    rw [visit_opens frames hrole, ← refusal?_eq_some_iff]
    cases K.refusal? start with
    | none => simp
    | some refused => simp [eq_comm]
  | closes kind =>
    rw [visit_closes frames hrole]
    constructor
    · intro h
      split at h
      · cases h
        exact ⟨.unmatched (by simp), rfl⟩
      · split at h
        · cases h
        · rename_i f rest hkind
          cases h
          exact ⟨.unmatched (by simpa using hkind), rfl⟩
    · rintro ⟨h, rfl⟩
      cases h with
      | unmatched mismatch =>
        cases frames with
        | nil => rfl
        | cons f rest =>
          have hkind : f.kind ≠ kind := by simpa using mismatch
          simp [hkind]
  | throws construct =>
    rw [visit_throws frames hrole]
    constructor
    · intro h
      cases h
    · rintro ⟨h, -⟩
      cases h

/-- A refused node leaves the state as it was, its diagnostics included. -/
theorem step_eq_error_iff {s t : State} {node : Node} {line : Nat} {e : CheckError} :
    K.step s node line = (.error e, t)
      ↔ K.Refuses line (s.scope.frames.map Frame.kind) node.role e ∧ t = s := by
  obtain ⟨⟨frames⟩, diagnostics⟩ := s
  rcases hv : K.visit ⟨frames⟩ node line with ⟨refused | found, after⟩
  · obtain ⟨hrefuses, rfl⟩ := visit_eq_error_iff.1 hv
    constructor
    · intro h
      simp only [step, hv, Outcome.diagnostics, List.append_nil] at h
      cases h
      exact ⟨hrefuses, rfl⟩
    · rintro ⟨h, rfl⟩
      have hvisit := visit_eq_error_iff.2 ⟨h, rfl⟩
      simp [step, hvisit, Outcome.diagnostics]
  · constructor
    · intro h
      simp [step, hv] at h
    · rintro ⟨h, -⟩
      have hvisit := visit_eq_error_iff.2 ⟨h, rfl⟩
      simp [hvisit] at hv

/-! ## Visiting all nodes -/

variable (K) in
/-- Visit all nodes, also behind one that is refused: what comes of each, and the scope at the end.
    -/
def visitAll (scope : Scope) : List (Node × Nat) → List Outcome × Scope
  | [] => ([], scope)
  | (node, line) :: rest =>
    let (outcome, next) := K.visit scope node line
    let (outcomes, last) := visitAll next rest
    (outcome :: outcomes, last)

theorem visitAll_append (scope : Scope) (xs ys : List (Node × Nat)) :
    K.visitAll scope (xs ++ ys)
      = ((K.visitAll scope xs).1 ++ (K.visitAll (K.visitAll scope xs).2 ys).1,
          (K.visitAll (K.visitAll scope xs).2 ys).2) := by
  induction xs generalizing scope with
  | nil => rfl
  | cons head rest ih =>
    obtain ⟨node, line⟩ := head
    simp only [List.cons_append, visitAll, ih]

theorem length_visitAll (scope : Scope) (nodes : List (Node × Nat)) :
    (K.visitAll scope nodes).1.length = nodes.length := by
  induction nodes generalizing scope with
  | nil => rfl
  | cons head rest ih => simp only [visitAll, List.length_cons, ih]

/-- The state behind a sequence of nodes is the scope with the diagnostics of all outcomes. -/
theorem runThrough_eq (s : State) (nodes : List (Node × Nat)) :
    K.runThrough s nodes
      = ((K.visitAll s.scope nodes).1,
          ⟨(K.visitAll s.scope nodes).2,
            s.diagnostics ++ (K.visitAll s.scope nodes).1.flatMap Outcome.diagnostics⟩) := by
  induction nodes generalizing s with
  | nil => simp [runThrough, visitAll]
  | cons head rest ih =>
    obtain ⟨node, line⟩ := head
    simp only [runThrough, step, visitAll, ih, List.flatMap_cons, List.append_assoc]

theorem findSome?_error?_eq_none {outcomes : List Outcome}
    (h : ∀ outcome ∈ outcomes, outcome.isOk = true) :
    outcomes.findSome? Outcome.error? = none := by
  rw [List.findSome?_eq_none_iff]
  intro outcome houtcome
  have hok := h outcome houtcome
  cases outcome with
  | ok found => rfl
  | error e => simp [Except.isOk, Except.toBool] at hok

/-- A check that stops at a refused node stops at the first of them. -/
theorem run_fst (s : State) (nodes : List (Node × Nat)) :
    (K.run s nodes).1 = (K.visitAll s.scope nodes).1.findSome? Outcome.error? := by
  induction nodes generalizing s with
  | nil => rfl
  | cons head rest ih =>
    obtain ⟨node, line⟩ := head
    rcases hv : K.visit s.scope node line with ⟨e | found, next⟩
    · simp [run, step, visitAll, hv, Outcome.error?, List.findSome?_cons]
    · simp [run, step, visitAll, hv, ih, Outcome.error?, List.findSome?_cons]

/-- With nothing refused both ways of checking a unit are one. -/
theorem run_eq_runThrough {s : State} {nodes : List (Node × Nat)}
    (h : (K.run s nodes).1 = none) : K.run s nodes = (none, (K.runThrough s nodes).2) := by
  induction nodes generalizing s with
  | nil => rfl
  | cons head rest ih =>
    obtain ⟨node, line⟩ := head
    rcases hs : K.step s node line with ⟨e | found, next⟩
    · simp [run, hs] at h
    · simp only [run, runThrough, hs] at h ⊢
      exact ih h

/-! ## Passing over refused nodes -/

variable (K) in
/-- The nodes that are accepted when all are checked, also behind one that is refused. -/
def acceptedNodes (s : State) (nodes : List (Node × Nat)) : List (Node × Nat) :=
  ((nodes.zip (K.runThrough s nodes).1).filter fun visited => visited.2.isOk).map Prod.fst

theorem acceptedNodes_cons_of_ok {s next : State} {node : Node} {line : Nat}
    {found : List Diagnostic} (h : K.step s node line = (.ok found, next))
    (rest : List (Node × Nat)) :
    K.acceptedNodes s ((node, line) :: rest) = (node, line) :: K.acceptedNodes next rest := by
  simp [acceptedNodes, runThrough, h, Except.isOk, Except.toBool]

theorem acceptedNodes_cons_of_error {s next : State} {node : Node} {line : Nat} {e : CheckError}
    (h : K.step s node line = (.error e, next)) (rest : List (Node × Nat)) :
    K.acceptedNodes s ((node, line) :: rest) = K.acceptedNodes next rest := by
  simp [acceptedNodes, runThrough, h, Except.isOk, Except.toBool]

/-- The accepted nodes alone have the outcomes that they have among the refused ones, and lead to
    the same state. -/
theorem runThrough_acceptedNodes (s : State) (nodes : List (Node × Nat)) :
    K.runThrough s (K.acceptedNodes s nodes)
      = ((K.runThrough s nodes).1.filter Except.isOk, (K.runThrough s nodes).2) := by
  induction nodes generalizing s with
  | nil => rfl
  | cons head rest ih =>
    obtain ⟨node, line⟩ := head
    rcases hs : K.step s node line with ⟨e | found, next⟩
    · -- the state behind a refused node is the one before it, from which the rest goes on
      obtain ⟨-, rfl⟩ := step_eq_error_iff.1 hs
      rw [acceptedNodes_cons_of_error hs, ih]
      simp [runThrough, hs, Except.isOk, Except.toBool]
    · rw [acceptedNodes_cons_of_ok hs]
      simp [runThrough, hs, ih, List.filter_cons, Except.isOk, Except.toBool]

/-- **Refused nodes leave no trace.** From any state, a refused node changes neither the scope nor
    the diagnostics, and so the check of all nodes ends in the state in which the check of the
    accepted ones ends, none of which is then refused. -/
theorem refused_nodes_leave_no_trace (K : Checker) (s : State) :
    (∀ node line e t, K.step s node line = (.error e, t) → t = s) ∧
    ∀ nodes, (K.acceptedNodes s nodes).Sublist nodes ∧
      K.runThrough s (K.acceptedNodes s nodes)
        = ((K.runThrough s nodes).1.filter Except.isOk, (K.runThrough s nodes).2) ∧
      K.run s (K.acceptedNodes s nodes) = (none, (K.runThrough s nodes).2) := by
  refine ⟨fun node line e t h => (step_eq_error_iff.1 h).2, fun nodes => ⟨?_, ?_, ?_⟩⟩
  · have hzip : (nodes.zip (K.runThrough s nodes).1).map Prod.fst = nodes := by
      rw [runThrough_eq, List.map_fst_zip (Nat.le_of_eq (length_visitAll _ _).symm)]
    have hkept := List.Sublist.map Prod.fst
      (List.filter_sublist (l := nodes.zip (K.runThrough s nodes).1) (p := fun v => v.2.isOk))
    rwa [hzip] at hkept
  · exact runThrough_acceptedNodes s nodes
  · have hall := runThrough_acceptedNodes (K := K) s nodes
    have hnone : (K.run s (K.acceptedNodes s nodes)).1 = none := by
      rw [runThrough_eq, Prod.mk.injEq] at hall
      rw [run_fst, hall.1]
      exact findSome?_error?_eq_none fun outcome h => (List.mem_filter.1 h).2
    rw [run_eq_runThrough hnone, hall]

/-- A function in which a body ends that is not open. -/
def strayEnd : List (Node × Nat) :=
  [(.functionStart ⟨.closure, []⟩, 1), (.tryEnd, 2), (.throwNew ⟨"LogicException"⟩, 3),
   (.functionEnd, 4)]

def insideClosure : State := (small.run .start (strayEnd.take 1)).2

/-- The end that is refused could as well not be there. -/
theorem refused_tryEnd_leaves_no_trace :
    (small.step insideClosure .tryEnd 2).1
      = .error (.frameMismatch 2 ⟨.tryBody, some .functionBody⟩) ∧
    (small.step insideClosure .tryEnd 2).2 = insideClosure ∧
    small.acceptedNodes .start strayEnd = strayEnd.eraseIdx 1 ∧
    small.run .start (small.acceptedNodes .start strayEnd)
      = (none, (small.runThrough .start strayEnd).2) := by
  have hrefused : (small.step insideClosure .tryEnd 2).1
      = .error (.frameMismatch 2 ⟨.tryBody, some .functionBody⟩) := rfl
  refine ⟨hrefused, ?_, rfl, ((refused_nodes_leave_no_trace small .start).2 strayEnd).2.2⟩
  exact (refused_nodes_leave_no_trace small insideClosure).1 .tryEnd 2 _ _ (Prod.ext hrefused rfl)

end Checker

end ExceptionFlow
