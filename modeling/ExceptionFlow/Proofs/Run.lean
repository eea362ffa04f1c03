import ExceptionFlow.Checker
import ExceptionFlow.Proofs.Nesting
import ExceptionFlow.Proofs.Propagation
import ExceptionFlow.Registry.Standard

set_option autoImplicit false

/-! # Accepted runs

Everything that an accepted node can do is said once, by the relation `Checker.Accepts`: a start
adds a frame, an end takes a frame of its kind away, and a throwing construct passes its types along
the frames. `visit_eq_ok_iff` ties the relation to the checker's own step and `run_eq_none_iff` its
iteration `Checker.Runs` to whole runs, so that later arguments go by three cases and never open the
step function. -/

namespace ExceptionFlow.Checker

variable (K : Checker)

/-! ## Nodes -/

/-- Why a body may not be entered: a method must be declared by its class, if that is known. -/
def refusal? : Opening → Option CheckError
  | .function contract =>
    match contract.callable with
    | .method owner method =>
      if K.isUndeclaredMethod owner method then some (.undeclaredMethod owner method) else none
    | .function _ => none
    | .closure => none
  | .tryBody _ => none

/-- The frame of a body as it is entered. -/
def startFrame : Opening → Frame
  | .function contract => .functionBody (K.bodyOf contract)
  | .tryBody clauses => .tryBody (K.regionOf clauses)

/-- What is reported at the start of a body. -/
def startReports (line : Nat) : Opening → List Diagnostic
  | .function contract => K.uselessTags contract line
  | .tryBody clauses => (CatchFinding.ofClauses K.hierarchy clauses).map K.pointlessCatch

/-- What is reported at the end of a body. -/
def endReports (line : Nat) : Frame → List Diagnostic
  | .functionBody body => K.unusedThrows body line
  | .tryBody region => K.neverThrown region

/-- What is reported at a throwing construct. -/
def throwReports (line : Nat) (frames : List Frame) (construct : Construct) : List Diagnostic :=
  K.escapes
    ⟨(K.throwModel.infer construct).filter fun t => !accepted K.hierarchy t frames,
      Scope.boundary frames⟩ line

/-- What an accepted node does to the frames, and what is reported at it. -/
inductive Accepts (line : Nat) :
    List Frame → Role → List Diagnostic → List Frame → Prop where
  | opens {start : Opening} {frames : List Frame} (admitted : K.refusal? start = none) :
      Accepts line frames (.opens start) (K.startReports line start) (K.startFrame start :: frames)
  | closes {kind : FrameKind} {f : Frame} {frames : List Frame} (matching : f.kind = kind) :
      Accepts line (f :: frames) (.closes kind) (K.endReports line f) frames
  | throws {construct : Construct} {frames : List Frame} :
      Accepts line frames (.throws construct) (K.throwReports line frames construct)
        ((frameRelay K.hierarchy).passAll (K.throwModel.infer construct).toList frames)

variable {K}

theorem startFrame_kind (start : Opening) : (K.startFrame start).kind = start.kind := by
  cases start <;> rfl

/-- A start adds a frame unless it is refused. -/
theorem visit_opens (frames : List Frame) {node : Node} {start : Opening}
    (h : node.role = .opens start) (line : Nat) :
    K.visit ⟨frames⟩ node line
      = match K.refusal? start with
        | none => (.ok (K.startReports line start), ⟨K.startFrame start :: frames⟩)
        | some e => (.error e, ⟨frames⟩) := by
  cases node with
  | tryStart clauses =>
    cases h
    rfl
  | functionStart contract =>
    cases h
    simp only [visit, enterFunction, refusal?]
    cases contract.callable with
    | method owner method =>
      by_cases hu : K.isUndeclaredMethod owner method = true
      · simp only [if_pos hu]
      · simp only [if_neg hu]
        rfl
    | function name => rfl
    | closure => rfl
  | functionEnd => cases h
  | tryEnd => cases h
  | throwing construct => cases h

/-- An end takes the innermost frame away if it is of the kind that ends. -/
theorem visit_closes (frames : List Frame) {node : Node} {kind : FrameKind}
    (h : node.role = .closes kind) (line : Nat) :
    K.visit ⟨frames⟩ node line
      = match frames with
        | [] => (.error (.frameMismatch line ⟨kind, none⟩), ⟨frames⟩)
        | f :: rest =>
          if f.kind = kind then (.ok (K.endReports line f), ⟨rest⟩)
          else (.error (.frameMismatch line ⟨kind, some f.kind⟩), ⟨frames⟩) := by
  cases node with
  | functionEnd =>
    -- a frame of the other kind is taken off and put back
    cases h
    rcases frames with _ | ⟨_ | _, rest⟩ <;> rfl
  | tryEnd =>
    cases h
    rcases frames with _ | ⟨_ | _, rest⟩ <;> rfl
  | functionStart contract => cases h
  | tryStart clauses => cases h
  | throwing construct => cases h

/-- A throwing construct is never refused. -/
theorem visit_throws (frames : List Frame) {node : Node} {construct : Construct}
    (h : node.role = .throws construct) (line : Nat) :
    K.visit ⟨frames⟩ node line
      = (.ok (K.throwReports line frames construct),
          ⟨(frameRelay K.hierarchy).passAll (K.throwModel.infer construct).toList frames⟩) := by
  cases node with
  | throwing construct =>
    cases h
    simp only [visit, throwAt, record_eq]
    rfl
  | functionStart contract => cases h
  | functionEnd => cases h
  | tryStart clauses => cases h
  | tryEnd => cases h

/-- **A node is accepted exactly as the relation says.** -/
theorem visit_eq_ok_iff {frames after : List Frame} {node : Node} {line : Nat}
    {found : List Diagnostic} :
    K.visit ⟨frames⟩ node line = (.ok found, ⟨after⟩)
      ↔ K.Accepts line frames node.role found after := by
  cases hrole : node.role with
  | opens start =>
    rw [visit_opens frames hrole]
    constructor
    · intro h
      split at h
      · rename_i admitted
        cases h
        exact .opens admitted
      · cases h
    · intro h
      cases h with
      | opens admitted => rw [admitted]
  | closes kind =>
    rw [visit_closes frames hrole]
    constructor
    · intro h
      split at h
      · cases h
      · split at h
        · rename_i matching
          cases h
          exact .closes matching
        · cases h
    · intro h
      cases h with
      | closes matching => exact if_pos matching
  | throws construct =>
    rw [visit_throws frames hrole]
    constructor
    · intro h
      cases h
      exact .throws
    · intro h
      cases h with
      | throws => rfl

theorem step_of_accepts {s : State} {node : Node} {line : Nat} {found : List Diagnostic}
    {after : List Frame} (h : K.Accepts line s.scope.frames node.role found after) :
    K.step s node line = (.ok found, ⟨⟨after⟩, s.diagnostics ++ found⟩) := by
  rw [step, visit_eq_ok_iff.2 h]
  rfl

theorem Accepts.of_throws {line : Nat} {frames after : List Frame} {found : List Diagnostic}
    {construct : Construct} (h : K.Accepts line frames (.throws construct) found after) :
    found = K.throwReports line frames construct ∧
      after = (frameRelay K.hierarchy).passAll (K.throwModel.infer construct).toList frames := by
  cases h with
  | throws => exact ⟨rfl, rfl⟩

/-! ## Runs -/

variable (K) in
/-- What an accepted sequence of nodes does to the frames, and what is reported at its nodes. -/
inductive Runs : List Frame → List (Node × Nat) → List Diagnostic → List Frame → Prop where
  | nil {frames : List Frame} : Runs frames [] [] frames
  | cons {frames mid after : List Frame} {node : Node} {line : Nat} {rest : List (Node × Nat)}
      {found more : List Diagnostic} :
      K.Accepts line frames node.role found mid → Runs mid rest more after →
        Runs frames ((node, line) :: rest) (found ++ more) after

/-- **A run goes through exactly as the relation says.** -/
theorem run_eq_none_iff {s t : State} {nodes : List (Node × Nat)} :
    K.run s nodes = (none, t)
      ↔ ∃ found after, K.Runs s.scope.frames nodes found after ∧
          t = ⟨⟨after⟩, s.diagnostics ++ found⟩ := by
  induction nodes generalizing s with
  | nil =>
    constructor
    · intro h
      cases h
      exact ⟨[], _, .nil, by simp⟩
    · rintro ⟨found, after, hruns, rfl⟩
      cases hruns
      simp [run]
  | cons head rest ih =>
    obtain ⟨node, line⟩ := head
    constructor
    · intro h
      rw [run, step] at h
      rcases hv : K.visit s.scope node line with ⟨outcome | found, mid⟩
      · -- a refused node ends the run with its error
        simp [hv] at h
      · simp only [hv] at h
        obtain ⟨more, after, hruns, rfl⟩ := ih.1 h
        exact ⟨found ++ more, after, .cons (visit_eq_ok_iff.1 hv) hruns, by
          simp [Outcome.diagnostics]⟩
    · rintro ⟨found, after, hruns, rfl⟩
      cases hruns with
      | cons haccepts hrest =>
        rw [run, step_of_accepts haccepts]
        exact ih.2 ⟨_, _, hrest, by rw [List.append_assoc]⟩

theorem run_eq_of_fst {s : State} {nodes : List (Node × Nat)} (h : (K.run s nodes).1 = none) :
    K.run s nodes = (none, (K.run s nodes).2) := by
  rw [← h]

theorem Runs.append {frames mid after : List Frame} {xs ys : List (Node × Nat)}
    {found more : List Diagnostic} (hxs : K.Runs frames xs found mid)
    (hys : K.Runs mid ys more after) : K.Runs frames (xs ++ ys) (found ++ more) after := by
  induction hxs with
  | nil => exact hys
  | cons haccepts _ ih =>
    rw [List.append_assoc]
    exact .cons haccepts (ih hys)

/-- A run over two parts goes through the first and then through the second. -/
theorem runs_append_iff {frames after : List Frame} {xs ys : List (Node × Nat)}
    {all : List Diagnostic} :
    K.Runs frames (xs ++ ys) all after
      ↔ ∃ mid found more, K.Runs frames xs found mid ∧ K.Runs mid ys more after ∧
          all = found ++ more := by
  constructor
  · intro h
    induction xs generalizing frames all with
    | nil => exact ⟨frames, [], all, .nil, h, rfl⟩
    | cons head rest ih =>
      cases h with
      | cons haccepts hrest =>
        obtain ⟨mid, found, more, hxs, hys, rfl⟩ := ih hrest
        exact ⟨mid, _, more, .cons haccepts hxs, hys, (List.append_assoc ..).symm⟩
  · rintro ⟨mid, found, more, hxs, hys, rfl⟩
    exact hxs.append hys

/-- A run over a whole body and what follows: the frame that the body adds is the one that its end
    takes away. -/
theorem runs_body_iff (start : Opening) {frames after : List Frame} {line endLine : Nat}
    {inner rest : List (Node × Nat)} {all : List Diagnostic} :
    K.Runs frames ((start.node, line) :: (inner ++ (start.kind.endNode, endLine) :: rest)) all after
      ↔ K.refusal? start = none ∧ ∃ f mid found more, f.kind = start.kind ∧
          K.Runs (K.startFrame start :: frames) inner found (f :: mid) ∧
          K.Runs mid rest more after ∧
          all = K.startReports line start ++ (found ++ (K.endReports endLine f ++ more)) := by
  constructor
  · intro h
    cases h with
    | cons hstart htail =>
      rw [start.role_node] at hstart
      cases hstart with
      | opens admitted =>
        obtain ⟨mid, found, more, hinner, hafter, rfl⟩ := runs_append_iff.1 htail
        cases hafter with
        | cons hend hrest =>
          rw [FrameKind.role_endNode] at hend
          cases hend with
          | closes matching => exact ⟨admitted, _, _, found, _, matching, hinner, hrest, rfl⟩
  · rintro ⟨admitted, f, mid, found, more, matching, hinner, hrest, rfl⟩
    have hstart : K.Accepts line frames start.node.role (K.startReports line start)
        (K.startFrame start :: frames) := by
      rw [start.role_node]
      exact .opens admitted
    have hend : K.Accepts endLine (f :: mid) start.kind.endNode.role (K.endReports endLine f)
        mid := by
      rw [FrameKind.role_endNode]
      exact .closes matching
    exact .cons hstart (hinner.append (.cons hend hrest))

/-! ## A small unit -/

/-- An unconfigured checker that knows two kinds of exceptions and one special case of each. -/
def small : Checker where
  hierarchy :=
    ((((Registry.empty.addClass (Registry.throwable "RuntimeException" "Exception")).addClass
      (Registry.throwable "RangeException" "RuntimeException")).addClass
      (Registry.throwable "LogicException" "Exception")).addClass
      (Registry.throwable "DomainException" "LogicException")).hierarchy
  file := "unit"
  options := {}
  policy := .default
  defaults := .ofOptions {}
  exemptions := []
  refinements := Refinement.standard

example : ofOptions small.hierarchy "unit" {} [] = .ok small := rfl

/-- A body in which the first of two throws is caught. -/
def partlyCaught : List (Node × Nat) :=
  [(.tryStart [⟨[⟨"RangeException"⟩], 4⟩], 2),
   (.throwNew ⟨"RangeException"⟩, 3),
   (.tryEnd, 4),
   (.throwNew ⟨"DomainException"⟩, 5)]

theorem balanced_partlyCaught : Balanced partlyCaught :=
  @Balanced.body (.tryBody _) 2 4 [_] [_] (.throwing .nil) (.throwing .nil)

end ExceptionFlow.Checker
