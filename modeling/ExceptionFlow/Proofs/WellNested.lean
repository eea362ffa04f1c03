import ExceptionFlow.Proofs.Refusal
import ExceptionFlow.Proofs.Tracking

set_option autoImplicit false

/-! # Well-nested units

The checker accepts exactly the units whose starts and ends are balanced and whose methods are
declared where they are entered. This is an agreement between two readings: the checker pops frames
from a stack, and `Balanced` derives the sequence from its parts.

From the stack to the derivation, `Runs.endsAll` follows a run to an empty scope; the frames open at
its beginning are the bodies that its nodes still have to end. From the derivation to the stack,
`Runs.of_balanced` runs a balanced sequence among any frames and finds them again behind it.

Where a unit is not accepted, the error is the one of the first node that cannot stand where it
stands. That node is found by the nesting of the nodes before it, with no scope. -/

namespace ExceptionFlow.Checker

variable (K : Checker)

/-- A method whose class is known is entered only if that class itself declares it. -/
def MethodsDeclared (nodes : List (Node × Nat)) : Prop :=
  ∀ contract line, (.functionStart contract, line) ∈ nodes →
    ∀ owner method, contract.callable = .method owner method →
      ∀ d ∈ K.hierarchy.find? owner, (d.ownMethod? method).isSome = true

/-- Every node may stand where it stands. -/
def Faultless (nodes : List (Node × Nat)) : Prop :=
  ∀ before node line after e, nodes = before ++ (node, line) :: after →
    ¬ K.Refuses line (openKinds before) node.role e

/-- What is wrong with the first node that may not stand where it stands. -/
def FirstFault (nodes : List (Node × Nat)) (e : CheckError) : Prop :=
  ∃ before node line after, nodes = before ++ (node, line) :: after ∧ K.Faultless before ∧
    K.Refuses line (openKinds before) node.role e

variable {K}

/-! ## The first fault -/

/-- A run that is refused goes through up to the node that is refused, and stops in the state that
    it has reached there. -/
theorem run_eq_some_iff {s t : State} {nodes : List (Node × Nat)} {e : CheckError} :
    K.run s nodes = (some e, t)
      ↔ ∃ before node line after, nodes = before ++ (node, line) :: after ∧
          K.run s before = (none, t) ∧
          K.Refuses line (t.scope.frames.map Frame.kind) node.role e := by
  induction nodes generalizing s with
  | nil => simp [run]
  | cons head rest ih =>
    obtain ⟨node, line⟩ := head
    rcases hs : K.step s node line with ⟨refused | found, next⟩
    · obtain ⟨hrefuses, rfl⟩ := step_eq_error_iff.1 hs
      constructor
      · intro h
        simp only [run, hs] at h
        cases h
        exact ⟨[], node, line, rest, rfl, rfl, hrefuses⟩
      · rintro ⟨before, node', line', after, heq, hrun, hrefuses'⟩
        cases before with
        | nil =>
          cases heq
          cases hrun
          rw [step_eq_error_iff.2 ⟨hrefuses', rfl⟩] at hs
          cases hs
          simp only [run, step_eq_error_iff.2 ⟨hrefuses', rfl⟩]
        | cons first others =>
          obtain ⟨rfl, -⟩ := List.cons.inj heq
          simp [run, hs] at hrun
    · constructor
      · intro h
        simp only [run, hs] at h
        obtain ⟨before, node', line', after, rfl, hrun, hrefuses⟩ := ih.1 h
        refine ⟨(node, line) :: before, node', line', after, rfl, ?_, hrefuses⟩
        simp only [run, hs]
        exact hrun
      · rintro ⟨before, node', line', after, heq, hrun, hrefuses⟩
        cases before with
        | nil =>
          cases heq
          cases hrun
          rw [step_eq_error_iff.2 ⟨hrefuses, rfl⟩] at hs
          cases hs
        | cons first others =>
          obtain ⟨rfl, rfl⟩ := List.cons.inj heq
          simp only [run, hs] at hrun ⊢
          exact ih.2 ⟨others, node', line', after, rfl, hrun, hrefuses⟩

/-- The frames after an accepted run are of the kinds of the open bodies. -/
theorem run_kinds {nodes : List (Node × Nat)} {s : State} (h : K.run .start nodes = (none, s)) :
    s.scope.frames.map Frame.kind = openKinds nodes := by
  rw [run_frames h, openKinds, openings, List.map_map, List.map_map]
  exact List.map_congr_left fun b _ => frameOf_kind b

/-- The beginning of an accepted run is an accepted run. -/
theorem run_eq_none_of_append {s t : State} {xs ys : List (Node × Nat)}
    (h : K.run s (xs ++ ys) = (none, t)) : ∃ mid, K.run s xs = (none, mid) := by
  obtain ⟨all, after, hruns, -⟩ := run_eq_none_iff.1 h
  obtain ⟨mid, found, more, hxs, -, -⟩ := runs_append_iff.1 hruns
  exact ⟨_, run_eq_none_iff.2 ⟨found, mid, hxs, rfl⟩⟩

/-- A run goes through exactly if every node may stand where it stands. -/
theorem run_fst_eq_none_iff {nodes : List (Node × Nat)} :
    (K.run .start nodes).1 = none ↔ K.Faultless nodes := by
  constructor
  · rintro h before node line after e rfl hrefuses
    obtain ⟨mid, hmid⟩ := run_eq_none_of_append (run_eq_of_fst h)
    rw [← run_kinds hmid] at hrefuses
    rw [run_eq_some_iff.2 ⟨before, node, line, after, rfl, hmid, hrefuses⟩] at h
    cases h
  · intro h
    rcases hrun : K.run .start nodes with ⟨_ | e, t⟩
    · rfl
    · obtain ⟨before, node, line, after, rfl, hmid, hrefuses⟩ := run_eq_some_iff.1 hrun
      rw [run_kinds hmid] at hrefuses
      exact absurd hrefuses (h before node line after e rfl)

theorem run_fst_eq_some_iff {nodes : List (Node × Nat)} {e : CheckError} :
    (K.run .start nodes).1 = some e ↔ K.FirstFault nodes e := by
  constructor
  · intro h
    have hrun : K.run .start nodes = (some e, (K.run .start nodes).2) := by rw [← h]
    obtain ⟨before, node, line, after, rfl, hmid, hrefuses⟩ := run_eq_some_iff.1 hrun
    rw [run_kinds hmid] at hrefuses
    exact ⟨before, node, line, after, rfl, run_fst_eq_none_iff.1 (by rw [hmid]), hrefuses⟩
  · rintro ⟨before, node, line, after, rfl, hfaultless, hrefuses⟩
    have hmid := run_eq_of_fst (run_fst_eq_none_iff.2 hfaultless)
    rw [← run_kinds hmid] at hrefuses
    rw [run_eq_some_iff.2 ⟨before, node, line, after, rfl, hmid, hrefuses⟩]

/-! ## From the stack to the derivation -/

/-- Nodes that run to an empty scope end the bodies of all frames that were open, each in turn. -/
theorem Runs.endsAll {frames : List Frame} {nodes : List (Node × Nat)} {found : List Diagnostic}
    (h : K.Runs frames nodes found []) : EndsAll (frames.map Frame.kind) nodes := by
  induction nodes generalizing frames found with
  | nil =>
    cases h
    exact Balanced.nil
  | cons head rest ih =>
    cases h with
    | @cons _ mid _ node line _ _ _ haccepts hrest =>
      have hends := ih hrest
      generalize hrole : node.role = role at haccepts
      obtain rfl := Node.eq_node_of_role hrole
      cases haccepts with
      | @opens start _ admitted =>
        -- the body that starts here is the first of those that the rest ends
        rw [List.map_cons, startFrame_kind] at hends
        obtain ⟨inner, endLine, after, hinner, rfl, hafter⟩ := hends
        have hbody : Balanced ((start.node, line) :: (inner ++ [(start.kind.endNode, endLine)])) :=
          .body hinner .nil
        have hall := EndsAll.prepend hbody hafter
        rwa [List.cons_append, List.append_assoc, List.singleton_append] at hall
      | closes matching => exact ⟨[], line, rest, .nil, by rw [matching]; rfl, hends⟩
      | throws =>
        rw [kinds_passAll] at hends
        exact EndsAll.prepend (.throwing .nil) hends

/-- The methods of an accepted run are declared. -/
theorem Faultless.methodsDeclared {nodes : List (Node × Nat)} (h : K.Faultless nodes) :
    K.MethodsDeclared nodes := by
  intro contract line hmem owner method hcallable d hd
  obtain ⟨before, after, rfl⟩ := List.append_of_mem hmem
  rw [← Option.ne_none_iff_isSome]
  intro hmissing
  exact h before _ line after _ rfl (.undeclared hcallable hd hmissing)

/-! ## From the derivation to the stack -/

theorem MethodsDeclared.of_subset {xs ys : List (Node × Nat)} (h : K.MethodsDeclared ys)
    (hsub : xs ⊆ ys) : K.MethodsDeclared xs :=
  fun contract line hmem => h contract line (hsub hmem)

/-- A body may be entered if its method is declared. -/
theorem MethodsDeclared.admitted {nodes : List (Node × Nat)} (h : K.MethodsDeclared nodes)
    {start : Opening} {line : Nat} (hmem : (start.node, line) ∈ nodes) :
    K.refusal? start = none := by
  rw [← Option.not_isSome_iff_eq_none, Option.isSome_iff_exists]
  rintro ⟨e, he⟩
  cases (@refusal?_eq_some_iff K line [] start e).1 he with
  | undeclared isMethod known missing =>
    have hdeclared := h _ line hmem _ _ isMethod _ known
    rw [missing] at hdeclared
    cases hdeclared

/-- Balanced nodes whose methods are declared are accepted among any frames, and leave behind as
    many frames of the same kinds. -/
theorem Runs.of_balanced {nodes : List (Node × Nat)} (h : Balanced nodes)
    (hdeclared : K.MethodsDeclared nodes) (frames : List Frame) :
    ∃ found after, K.Runs frames nodes found after ∧
      after.map Frame.kind = frames.map Frame.kind := by
  induction h generalizing frames with
  | nil => exact ⟨[], frames, .nil, rfl⟩
  | @throwing construct line rest _ ih =>
    obtain ⟨found, after, hruns, hkinds⟩ :=
      ih (hdeclared.of_subset (List.subset_cons_self _ _))
        ((frameRelay K.hierarchy).passAll (K.throwModel.infer construct).toList frames)
    exact ⟨_, after, .cons .throws hruns, hkinds.trans (kinds_passAll ..)⟩
  | @body start line endLine inner rest _ _ ihInner ihRest =>
    obtain ⟨found, frames', hinner, hkinds⟩ :=
      ihInner (hdeclared.of_subset (by simp +contextual [List.subset_def]))
        (K.startFrame start :: frames)
    cases frames' with
    | nil => simp at hkinds
    | cons f mid =>
      obtain ⟨hf, hmid⟩ := List.cons.inj hkinds
      obtain ⟨more, after, hrest, hkindsRest⟩ :=
        ihRest (hdeclared.of_subset (by simp +contextual [List.subset_def])) mid
      have admitted : K.refusal? start = none := hdeclared.admitted List.mem_cons_self
      have matching : f.kind = start.kind := hf.trans (startFrame_kind start)
      exact ⟨_, after, (runs_body_iff start).2
        ⟨admitted, f, mid, found, more, matching, hinner, hrest, rfl⟩, hkindsRest.trans hmid⟩

/-! ## Accepted units -/

theorem finish_eq_ok_iff {s : State} {found : List Diagnostic} :
    s.finish = .ok found ↔ s.scope.frames = [] ∧ s.diagnostics = found := by
  by_cases h : s.scope.frames = []
  · simp [State.finish, Scope.isEmpty, h]
  · simp [State.finish, Scope.isEmpty, h]

theorem accepts_iff_balanced {nodes : List (Node × Nat)} :
    (∃ s found, K.run .start nodes = (none, s) ∧ s.finish = .ok found)
      ↔ Balanced nodes ∧ K.MethodsDeclared nodes := by
  constructor
  · rintro ⟨s, found, hrun, hfinish⟩
    have hfaultless : K.Faultless nodes := run_fst_eq_none_iff.1 (by rw [hrun])
    obtain ⟨all, after, hruns, rfl⟩ := run_eq_none_iff.1 hrun
    obtain ⟨rfl, -⟩ : after = [] ∧ _ := finish_eq_ok_iff.1 hfinish
    exact ⟨hruns.endsAll, hfaultless.methodsDeclared⟩
  · rintro ⟨hbalanced, hdeclared⟩
    obtain ⟨found, after, hruns, hkinds⟩ := Runs.of_balanced hbalanced hdeclared []
    have hafter : after = [] := List.map_eq_nil_iff.1 hkinds
    exact ⟨_, _, run_eq_none_iff.2 ⟨found, after, hruns, rfl⟩, finish_eq_ok_iff.2 ⟨hafter, rfl⟩⟩

/-- **The accepted units are the well-nested ones.** A unit goes through to its end exactly if it is
    balanced and enters declared methods only. Otherwise the first node that may not stand where it
    stands gives the error, and if there is none, the end of the unit counts the open bodies. -/
theorem accepts_exactly_well_nested (K : Checker) (nodes : List (Node × Nat)) :
    ((∃ s found, K.run .start nodes = (none, s) ∧ s.finish = .ok found)
      ↔ Balanced nodes ∧ K.MethodsDeclared nodes) ∧
    (∀ e, (K.run .start nodes).1 = some e ↔ K.FirstFault nodes e) ∧
    ∀ s, K.run .start nodes = (none, s) → openings nodes ≠ [] →
      s.finish = .error (.unclosedFrames (openings nodes).length) := by
  refine ⟨accepts_iff_balanced, fun e => run_fst_eq_some_iff, ?_⟩
  intro s hrun hopen
  have hdepth : s.scope.frames.length = (openings nodes).length := by
    have hkinds := congrArg List.length (run_kinds hrun)
    simpa [openKinds] using hkinds
  have hframes : s.scope.frames ≠ [] := by
    rw [← List.length_pos_iff, hdepth, List.length_pos_iff]
    exact hopen
  simp [State.finish, Scope.isEmpty, Scope.depth, hframes, hdepth]

/-- A unit that breaks off in the second of three bodies. -/
def brokenOff : List (Node × Nat) :=
  [(.functionStart ⟨.closure, []⟩, 1), (.tryStart [], 2), (.tryStart [], 3), (.tryEnd, 4)]

theorem brokenOff_leaves_two_open :
    (small.run .start brokenOff).1 = none ∧
    (small.run .start brokenOff).2.finish = .error (.unclosedFrames 2) := by
  have hrun : (small.run .start brokenOff).1 = none := by decide +kernel
  refine ⟨hrun, ?_⟩
  exact (accepts_exactly_well_nested small brokenOff).2.2 _ (run_eq_of_fst hrun)
    (List.cons_ne_nil _ _)

end ExceptionFlow.Checker
