import ExceptionFlow.Proofs.Run

set_option autoImplicit false

/-! # Functions are isolated

Whatever is thrown in a function body stops at the frame of that body, and so does every question
about what is open there. A function body is therefore checked in the same way wherever it stands,
and leaves everything around it as it was. `run_function_isolated` says so of two runs that start
from any two states, also from states that no run reaches.

The argument is about frames `above` with a function body among them: as long as the nodes are
balanced, nothing is read or written below. -/

namespace ExceptionFlow

variable {H : Hierarchy}

/-! ## Frames below a function body -/

/-- The types of a throw never get below a function body. -/
theorem pass_above (thrown : ClassName) {above : List Frame}
    (h : .functionBody ∈ above.map Frame.kind) (below : List Frame) :
    (frameRelay H).pass thrown (above ++ below) = (frameRelay H).pass thrown above ++ below := by
  induction above with
  | nil => simp at h
  | cons f rest ih =>
    rw [List.cons_append, Relay.pass, Relay.pass, List.cons_append]
    cases f with
    | functionBody body => rfl
    | tryBody region =>
      rw [ih (by simpa [Frame.kind] using h)]
      split <;> rfl

theorem passAll_above (types : List ClassName) {above : List Frame}
    (h : .functionBody ∈ above.map Frame.kind) (below : List Frame) :
    (frameRelay H).passAll types (above ++ below)
      = (frameRelay H).passAll types above ++ below := by
  induction types generalizing above with
  | nil => rfl
  | cons t rest ih =>
    have hstep : (frameRelay H).passAll (t :: rest) (above ++ below)
        = (frameRelay H).passAll rest ((frameRelay H).pass t (above ++ below)) := rfl
    rw [hstep, pass_above t h, ih (by rw [kinds_pass]; exact h)]
    rfl

/-- Whether a type is accepted is decided above a function body or by it. -/
theorem accepted_above (thrown : ClassName) {above : List Frame}
    (h : .functionBody ∈ above.map Frame.kind) (below : List Frame) :
    accepted H thrown (above ++ below) = accepted H thrown above := by
  induction above with
  | nil => simp at h
  | cons f rest ih =>
    cases f with
    | functionBody body => rfl
    | tryBody region =>
      rw [List.cons_append, accepted, accepted, ih (by simpa [Frame.kind] using h)]

theorem boundary_above {above : List Frame} (h : .functionBody ∈ above.map Frame.kind)
    (below : List Frame) : Scope.boundary (above ++ below) = Scope.boundary above := by
  induction above with
  | nil => simp at h
  | cons f rest ih =>
    cases f with
    | functionBody body => rfl
    | tryBody region => exact ih (by simpa [Frame.kind] using h)

namespace Checker

variable {K : Checker}

theorem throwReports_above (line : Nat) (construct : Construct) {above : List Frame}
    (h : .functionBody ∈ above.map Frame.kind) (below : List Frame) :
    K.throwReports line (above ++ below) construct = K.throwReports line above construct := by
  simp only [throwReports, accepted_above _ h, boundary_above h]

/-! ## Balanced nodes above a function body -/

/-- Balanced nodes that are visited above a function body do the same to the frames above whatever
    stands below, and nothing to those below. -/
theorem Runs.above {nodes : List (Node × Nat)} (hnodes : Balanced nodes)
    {above below after : List Frame} {found : List Diagnostic}
    (habove : .functionBody ∈ above.map Frame.kind)
    (h : K.Runs (above ++ below) nodes found after) :
    ∃ above', above'.map Frame.kind = above.map Frame.kind ∧ after = above' ++ below ∧
      ∀ other, K.Runs (above ++ other) nodes found (above' ++ other) := by
  induction hnodes generalizing above after found with
  | nil =>
    cases h
    exact ⟨above, rfl, rfl, fun other => .nil⟩
  | @throwing construct line rest _ ih =>
    cases h with
    | cons haccepts hrest =>
      obtain ⟨rfl, rfl⟩ := haccepts.of_throws
      -- the function body above keeps the types from the frames below
      rw [passAll_above _ habove] at hrest
      obtain ⟨above', hkinds, rfl, hother⟩ := ih (by rw [kinds_passAll]; exact habove) hrest
      refine ⟨above', hkinds.trans (kinds_passAll _ _ _), rfl, ?_⟩
      intro other
      have hthrow : K.Accepts line (above ++ other) (.throws construct) _ _ := .throws
      rw [throwReports_above line construct habove, passAll_above _ habove] at hthrow
      rw [throwReports_above line construct habove]
      exact .cons hthrow (hother other)
  | @body start line endLine inner rest _ _ ihInner ihRest =>
    obtain ⟨admitted, f, mid, foundInner, more, matching, hinner, hrest, rfl⟩ :=
      (runs_body_iff start).1 h
    -- the frame of the body stands above as well, until the end of the body takes it away again
    have haboveInner : .functionBody ∈ (K.startFrame start :: above).map Frame.kind :=
      List.mem_cons_of_mem _ habove
    obtain ⟨frames, hkindsInner, hmid, hotherInner⟩ := ihInner haboveInner hinner
    cases frames with
    | nil => simp at hkindsInner
    | cons g above₁ =>
      obtain ⟨rfl, rfl⟩ := List.cons.inj hmid
      have habove₁ : above₁.map Frame.kind = above.map Frame.kind := (List.cons.inj hkindsInner).2
      obtain ⟨above', hkinds, rfl, hother⟩ := ihRest (by rw [habove₁]; exact habove) hrest
      refine ⟨above', hkinds.trans habove₁, rfl, ?_⟩
      intro other
      exact (runs_body_iff start).2
        ⟨admitted, f, _, foundInner, more, matching, hotherInner other, hother other, rfl⟩

/-- A whole function does nothing to the frames around it and reports the same among any others. -/
theorem Runs.function {contract : Contract} {inner : List (Node × Nat)} {startLine endLine : Nat}
    (hinner : Balanced inner) {frames after : List Frame} {all : List Diagnostic}
    (h : K.Runs frames
      ((.functionStart contract, startLine) :: (inner ++ [(.functionEnd, endLine)])) all after) :
    after = frames ∧ ∀ other, K.Runs other
      ((.functionStart contract, startLine) :: (inner ++ [(.functionEnd, endLine)])) all other := by
  let start : Opening := .function contract
  obtain ⟨admitted, f, mid, found, more, matching, hbody, hrest, rfl⟩ :=
    (runs_body_iff start).1 h
  cases hrest
  -- the frame of the function itself is the function body that stands above
  have hstart : .functionBody ∈ [K.startFrame start].map Frame.kind := List.mem_singleton_self _
  obtain ⟨above', hkinds, hafter, hother⟩ := Runs.above hinner hstart hbody
  have hlength : above'.length = 1 := by simpa using congrArg List.length hkinds
  obtain ⟨g, rfl⟩ := List.length_eq_one_iff.1 hlength
  obtain ⟨rfl, rfl⟩ := List.cons.inj hafter
  refine ⟨rfl, ?_⟩
  intro other
  exact (runs_body_iff start).2
    ⟨admitted, f, other, found, [], matching, hother other, .nil, rfl⟩

/-- **A function is checked in the same way wherever it stands.** Whatever state a run over a whole
    function starts from, the state is left as it was but for the reports, and a run from any other
    state goes through with the same reports. -/
theorem run_function_isolated (K : Checker) {contract : Contract} {inner : List (Node × Nat)}
    {startLine endLine : Nat} (hinner : Balanced inner) {s t : State}
    (h : K.run s ((.functionStart contract, startLine) :: (inner ++ [(.functionEnd, endLine)]))
      = (none, t)) (other : State) :
    ∃ found, t = ⟨s.scope, s.diagnostics ++ found⟩ ∧
      K.run other ((.functionStart contract, startLine) :: (inner ++ [(.functionEnd, endLine)]))
        = (none, ⟨other.scope, other.diagnostics ++ found⟩) := by
  obtain ⟨found, after, hruns, rfl⟩ := run_eq_none_iff.1 h
  obtain ⟨rfl, hother⟩ := Runs.function hinner hruns
  exact ⟨found, rfl, run_eq_none_iff.2 ⟨found, other.scope.frames, hother other.scope.frames, rfl⟩⟩

/-- A closure in which something escapes. -/
def leakyClosure : List (Node × Nat) :=
  (.functionStart ⟨.closure, []⟩, 1) :: (partlyCaught ++ [(.functionEnd, 6)])

/-- A state inside a try that nothing has been thrown in. -/
def insideTry : State := ⟨⟨[.tryBody (.ofClauses [⟨[⟨"LogicException"⟩], 7⟩])]⟩, []⟩

/-- What escapes from the closure is reported, and the clause that would catch it does not see
    it. -/
theorem run_function_isolated_in_try :
    ∃ found ≠ [],
      small.run .start leakyClosure = (none, ⟨.empty, found⟩) ∧
      small.run insideTry leakyClosure = (none, ⟨insideTry.scope, found⟩) := by
  have hrun : (small.run .start leakyClosure).1 = none := by decide +kernel
  have hreported : (small.run .start leakyClosure).2.diagnostics ≠ [] := by decide +kernel
  obtain ⟨found, hstart, hother⟩ :=
    run_function_isolated small balanced_partlyCaught (run_eq_of_fst hrun) insideTry
  have hall : small.run .start leakyClosure = (none, ⟨.empty, found⟩) :=
    (run_eq_of_fst hrun).trans (congrArg (Prod.mk none) hstart)
  rw [hall] at hreported
  exact ⟨found, hreported, hall, hother⟩

end Checker

end ExceptionFlow
