import ExceptionFlow.Proofs.Run

set_option autoImplicit false

/-! # The scope is determined by the nesting

The scope changes with every node, yet it holds nothing that cannot be read off the nodes visited so
far. Each frame belongs to an open body, and is the frame of its start after it has noted the types
that leave the nodes behind the start (`Checker.leaving`): those that a construct directly in the
body throws and no try between them catches. `run_frames` is this invariant for whole runs.

The step that carries it is the one for a throwing construct. The types go from frame to frame and
each frame keeps some back; what comes to a frame is what the openings between it and the construct
let pass, and by `openBodies_inner` those are the openings within the frame's own body. -/

namespace ExceptionFlow

/-! ## Pointless entries are marked from the start -/

/-- Some entry of the clauses intercepts every value of a type. -/
def Catches (H : Hierarchy) (clauses : List CatchClause) (thrown : ClassName) : Prop :=
  ∃ c ∈ clauses, ∃ e ∈ c.types, H.interception e thrown = .always

instance (H : Hierarchy) (clauses : List CatchClause) (thrown : ClassName) :
    Decidable (Catches H clauses thrown) :=
  inferInstanceAs (Decidable (∃ c ∈ clauses, ∃ e ∈ c.types, H.interception e thrown = .always))

namespace TryRegion

/-- Clauses in which nothing was observed yet and some entries are marked. -/
def shade (marked : Nat → Nat → Bool) (clauses : List CatchClause) : TryRegion :=
  ⟨clauses.zipIdx.map fun c =>
    ⟨c.1.line, c.1.types.zipIdx.map fun e => ⟨e.1, 0, marked c.2 e.2⟩⟩⟩

theorem ofClauses_eq_shade (clauses : List CatchClause) :
    ofClauses clauses = shade (fun _ _ => false) clauses := by
  simp only [ofClauses, shade, map_zipIdx_fst (fun type => CatchEntry.mk type 0 false)]
  rw [map_zipIdx_fst fun c : CatchClause =>
    OpenClause.mk c.line (c.types.map fun type => ⟨type, 0, false⟩)]

theorem markShadowed_shade (marked : Nat → Nat → Bool) (clauses : List CatchClause)
    (clause entry : Nat) :
    (shade marked clauses).markShadowed clause entry
      = shade (fun k i => marked k i || (clause == k && entry == i)) clauses := by
  simp only [shade, markShadowed, modify_map_zipIdx]
  congr 1
  refine List.map_congr_left ?_
  rintro ⟨c, k⟩ -
  by_cases hk : clause = k
  · simp only [if_pos hk]
    congr 1
    refine List.map_congr_left ?_
    rintro ⟨e, i⟩ -
    by_cases hi : entry = i <;> simp [hk, hi]
  · simp [hk]

theorem take_clauses_shade (marked : Nat → Nat → Bool) (clauses : List CatchClause) (k : Nat) :
    (shade marked clauses).clauses.take k = (shade marked (clauses.take k)).clauses := by
  rw [shade, shade, ← List.map_take, take_zipIdx]

/-- What a try body catches depends on the types of its clauses only. -/
theorem catches_shade (H : Hierarchy) (thrown : ClassName) (marked : Nat → Nat → Bool)
    (clauses : List CatchClause) :
    (shade marked clauses).catches H thrown = decide (Catches H clauses thrown) := by
  simp only [catches, shade, List.any_map, Function.comp_def]
  simp only [any_zipIdx_fst fun e => H.interception e thrown == .always]
  rw [any_zipIdx_fst fun c : CatchClause => c.types.any _, Bool.eq_iff_iff, decide_eq_true_iff]
  simp [Catches]

end TryRegion

/-- Whether a finding is about the entry at a position. -/
def CatchFinding.isAt (clause entry : Nat) (f : CatchFinding) : Bool :=
  f.clause == clause && f.entry == entry

theorem foldl_markShadowed (findings : List CatchFinding) (marked : Nat → Nat → Bool)
    (clauses : List CatchClause) :
    findings.foldl (fun region f => region.markShadowed f.clause f.entry)
        (TryRegion.shade marked clauses)
      = .shade (fun k i => marked k i || findings.any (CatchFinding.isAt k i)) clauses := by
  induction findings generalizing marked with
  | nil => simp
  | cons f rest ih =>
    rw [List.foldl_cons, TryRegion.markShadowed_shade, ih]
    simp only [List.any_cons, CatchFinding.isAt, Bool.or_assoc]

/-- A try body is entered with exactly its pointless entries marked. -/
theorem Checker.regionOf_eq_shade (K : Checker) (clauses : List CatchClause) :
    K.regionOf clauses
      = .shade (fun k i => (CatchFinding.ofClauses K.hierarchy clauses).any (CatchFinding.isAt k i))
          clauses := by
  rw [Checker.regionOf, TryRegion.ofClauses_eq_shade, foldl_markShadowed]
  simp

/-! ## What leaves a body -/

/-- Whether a type thrown inside a body gets out of it as it was thrown: a try body keeps what one
    of its clauses catches, and a function keeps everything. -/
def Opening.passes (H : Hierarchy) (thrown : ClassName) : Opening → Bool
  | .function _ => false
  | .tryBody clauses => !decide (Catches H clauses thrown)

namespace Checker

variable (K : Checker)

/-- The types that a node throws and the openings around it let pass. -/
def thrownPast (around : List Opening) : Role → List ClassName
  | .opens _ => []
  | .closes _ => []
  | .throws construct =>
    (K.throwModel.infer construct).toList.filter fun t =>
      around.all (Opening.passes K.hierarchy t)

/-- The types that leave some nodes, given the nodes of the same body before them. -/
def leavingAfter (before : List (Node × Nat)) : List (Node × Nat) → List ClassName
  | [] => []
  | node :: rest =>
    K.thrownPast (openings before) node.1.role ++ leavingAfter (before ++ [node]) rest

/-- The types that leave the nodes of a body, in the order in which they are thrown. -/
def leaving (body : List (Node × Nat)) : List ClassName := K.leavingAfter [] body

/-- A construct directly in the body may throw the type, and no try between them catches it. -/
def Leaves (body : List (Node × Nat)) (thrown : ClassName) : Prop :=
  ∃ before construct line after, body = before ++ (.throwing construct, line) :: after ∧
    thrown ∈ K.throwModel.infer construct ∧
    ∀ o ∈ openings before, ∃ clauses, o = .tryBody clauses ∧ ¬ Catches K.hierarchy clauses thrown

/-- The frame of an open body. -/
def frameOf (b : OpenBody) : Frame :=
  (frameRelay K.hierarchy).noteAll (K.leaving b.inner) (K.startFrame b.start)

variable {K}

theorem leavingAfter_append (before xs ys : List (Node × Nat)) :
    K.leavingAfter before (xs ++ ys)
      = K.leavingAfter before xs ++ K.leavingAfter (before ++ xs) ys := by
  induction xs generalizing before with
  | nil => rw [List.append_nil]; rfl
  | cons node rest ih =>
    rw [List.cons_append, leavingAfter, leavingAfter, ih, List.append_assoc, List.append_assoc]
    rfl

theorem leaving_concat (body : List (Node × Nat)) (node : Node × Nat) :
    K.leaving (body ++ [node]) = K.leaving body ++ K.thrownPast (openings body) node.1.role := by
  rw [leaving, leavingAfter_append, leaving, List.nil_append, leavingAfter, leavingAfter,
    List.append_nil]

theorem passes_iff {H : Hierarchy} {thrown : ClassName} {o : Opening} :
    o.passes H thrown = true ↔ ∃ clauses, o = .tryBody clauses ∧ ¬ Catches H clauses thrown := by
  cases o <;> simp [Opening.passes]

theorem mem_leavingAfter {before body : List (Node × Nat)} {thrown : ClassName} :
    thrown ∈ K.leavingAfter before body
      ↔ ∃ xs construct line ys, body = xs ++ (.throwing construct, line) :: ys ∧
          thrown ∈ K.throwModel.infer construct ∧
          ∀ o ∈ openings (before ++ xs), ∃ clauses, o = .tryBody clauses ∧
            ¬ Catches K.hierarchy clauses thrown := by
  induction body generalizing before with
  | nil => simp [leavingAfter]
  | cons head rest ih =>
    obtain ⟨node, line⟩ := head
    rw [leavingAfter, List.mem_append, ih]
    constructor
    · rintro (hhead | ⟨xs, construct, line', ys, rfl, hthrown, hpass⟩)
      · cases node with
        | throwing construct =>
          obtain ⟨hthrown, hpass⟩ := List.mem_filter.1 hhead
          refine ⟨[], construct, line, rest, rfl, hthrown, ?_⟩
          rw [List.append_nil]
          exact fun o ho => passes_iff.1 (List.all_eq_true.1 hpass o ho)
        | functionStart contract => exact absurd hhead List.not_mem_nil
        | functionEnd => exact absurd hhead List.not_mem_nil
        | tryStart clauses => exact absurd hhead List.not_mem_nil
        | tryEnd => exact absurd hhead List.not_mem_nil
      · refine ⟨(node, line) :: xs, construct, line', ys, rfl, hthrown, ?_⟩
        rwa [List.append_assoc, List.singleton_append] at hpass
    · rintro ⟨xs, construct, line', ys, heq, hthrown, hpass⟩
      rcases xs with _ | ⟨first, others⟩
      · obtain ⟨hnode, rfl⟩ := List.cons.inj heq
        obtain ⟨rfl, rfl⟩ := Prod.mk.inj hnode
        rw [List.append_nil] at hpass
        refine Or.inl (List.mem_filter.2 ⟨hthrown, ?_⟩)
        exact List.all_eq_true.2 fun o ho => passes_iff.2 (hpass o ho)
      · obtain ⟨rfl, rfl⟩ := List.cons.inj heq
        refine Or.inr ⟨others, construct, line', ys, rfl, hthrown, ?_⟩
        rwa [List.append_assoc, List.singleton_append]

theorem mem_leaving {body : List (Node × Nat)} {thrown : ClassName} :
    thrown ∈ K.leaving body ↔ K.Leaves body thrown := mem_leavingAfter

/-- What gets past the tries around a construct that stands directly in a body leaves the body. -/
theorem leaves_of_uncaught {inner : List (Node × Nat)} (h : enclosingFunction? inner = none)
    {construct : Construct} {thrown : ClassName} (hthrown : thrown ∈ K.throwModel.infer construct)
    (htries : ∀ clauses ∈ enclosingTries inner, ¬ Catches K.hierarchy clauses thrown)
    (line : Nat) (after : List (Node × Nat)) :
    K.Leaves (inner ++ (.throwing construct, line) :: after) thrown := by
  refine ⟨inner, construct, line, after, rfl, hthrown, ?_⟩
  intro o ho
  obtain ⟨clauses, rfl, hclauses⟩ := mem_innermostTries h ho
  exact ⟨clauses, rfl, htries clauses hclauses⟩

/-- One more node lets the frame of a body note what the node throws to it. -/
theorem frameOf_extend (node : Node × Nat) (b : OpenBody) :
    K.frameOf (b.extend [node])
      = (frameRelay K.hierarchy).noteAll (K.thrownPast (openings b.inner) node.1.role)
          (K.frameOf b) := by
  rw [frameOf, OpenBody.extend, leaving_concat, Relay.noteAll_append]
  rfl

theorem startFrame_stops (thrown : ClassName) (start : Opening) :
    (frameRelay K.hierarchy).stops thrown (K.startFrame start)
      = !start.passes K.hierarchy thrown := by
  cases start with
  | function contract => rfl
  | tryBody clauses =>
    show (K.regionOf clauses).catches K.hierarchy thrown = _
    rw [regionOf_eq_shade, TryRegion.catches_shade, Opening.passes, Bool.not_not]

theorem frameOf_stops (thrown : ClassName) (b : OpenBody) :
    (frameRelay K.hierarchy).stops thrown (K.frameOf b)
      = !b.start.passes K.hierarchy thrown := by
  rw [frameOf, Relay.stops_noteAll, startFrame_stops]

theorem frameOf_kind (b : OpenBody) : (K.frameOf b).kind = b.start.kind := by
  rw [frameOf, kind_noteAll, startFrame_kind]

/-- A node that throws nothing changes no frame. -/
theorem map_frameOf_extend (node : Node × Nat) (bodies : List OpenBody)
    (h : ∀ around, K.thrownPast around node.1.role = []) :
    (bodies.map (OpenBody.extend [node])).map K.frameOf = bodies.map K.frameOf := by
  rw [List.map_map]
  refine List.map_congr_left ?_
  intro b _
  rw [Function.comp_apply, frameOf_extend, h]
  rfl

/-! ## The invariant -/

/-- Types that have got past the bodies `inside` come to each body further out in turn, as far as
    the openings within it let them. -/
theorem passAll_frameOf {nodes : List (Node × Nat)} (types : List ClassName)
    {inside outside : List OpenBody} (h : openBodies nodes = inside ++ outside) :
    (frameRelay K.hierarchy).passAll
        (types.filter fun t => (inside.map (·.start)).all (Opening.passes K.hierarchy t))
        (outside.map K.frameOf)
      = outside.map fun b =>
          (frameRelay K.hierarchy).noteAll
            (types.filter fun t => (openings b.inner).all (Opening.passes K.hierarchy t))
            (K.frameOf b) := by
  -- the walk goes outwards: each body is moved from `outside` to `inside` as the types pass it
  induction outside generalizing inside with
  | nil => exact Relay.passAll_nil _ _
  | cons b rest ih =>
    have hinner : openings b.inner = inside.map (·.start) := by
      rw [openings, openBodies_inner h]
    have hnext : openBodies nodes = (inside ++ [b]) ++ rest := by
      rw [h, List.append_assoc, List.singleton_append]
    have hfilter : (types.filter fun t =>
          (inside.map (·.start)).all (Opening.passes K.hierarchy t)).filter
            (fun t => !(frameRelay K.hierarchy).stops t (K.frameOf b))
        = types.filter fun t =>
            ((inside ++ [b]).map (·.start)).all (Opening.passes K.hierarchy t) := by
      rw [List.filter_filter]
      refine List.filter_congr ?_
      intro t _
      rw [frameOf_stops, Bool.not_not, List.map_append, List.all_append, Bool.and_comm]
      simp
    rw [List.map_cons, Relay.passAll_cons, hfilter, ih hnext, List.map_cons, hinner]

/-- An accepted node keeps the frames in step with the open bodies. -/
theorem Accepts.frames {before : List (Node × Nat)} {node : Node} {line : Nat}
    {found : List Diagnostic} {after : List Frame}
    (h : K.Accepts line ((openBodies before).map K.frameOf) node.role found after) :
    after = (openBodies (before ++ [(node, line)])).map K.frameOf := by
  rw [openBodies_append]
  -- the relation splits into its cases once its frames and its role are variables
  generalize hframes : (openBodies before).map K.frameOf = frames at h
  generalize hrole : node.role = role at h
  cases h with
  | @opens start _ admitted =>
    have hopen : openBodies [(node, line)] = [⟨start, []⟩] := by
      simp [openBodies, hrole, unmatchedEnds]
    have hends : unmatchedEnds [(node, line)] = 0 := by simp [unmatchedEnds, hrole]
    rw [hopen, hends, List.drop_zero, List.map_append,
      map_frameOf_extend _ _ fun around => by rw [hrole]; rfl, hframes]
    rfl
  | closes matching =>
    have hopen : openBodies [(node, line)] = [] := by simp [openBodies, hrole]
    have hends : unmatchedEnds [(node, line)] = 1 := by simp [unmatchedEnds, hrole]
    rw [hopen, hends, List.nil_append, map_frameOf_extend _ _ fun around => by rw [hrole]; rfl,
      List.map_drop, hframes]
    rfl
  | @throws construct _ =>
    have hopen : openBodies [(node, line)] = [] := by simp [openBodies, hrole]
    have hends : unmatchedEnds [(node, line)] = 0 := by simp [unmatchedEnds, hrole]
    -- no body lies inside the innermost, so all types come to it
    have hpass := passAll_frameOf (K := K) (K.throwModel.infer construct).toList
      (List.nil_append (openBodies before)).symm
    rw [List.filter_eq_self.2 (by simp), hframes] at hpass
    rw [hpass, hopen, hends, List.nil_append, List.drop_zero, List.map_map]
    refine List.map_congr_left ?_
    intro b _
    rw [Function.comp_apply, frameOf_extend, hrole]
    rfl

/-- Nodes accepted one after the other keep the frames in step with the open bodies. -/
theorem Runs.frames (before : List (Node × Nat)) {nodes : List (Node × Nat)}
    {found : List Diagnostic} {after : List Frame}
    (h : K.Runs ((openBodies before).map K.frameOf) nodes found after) :
    after = (openBodies (before ++ nodes)).map K.frameOf := by
  induction nodes generalizing before found with
  | nil =>
    cases h
    rw [List.append_nil]
  | cons head rest ih =>
    cases h with
    | cons haccepts hrest =>
      rw [haccepts.frames] at hrest
      rw [ih _ hrest, List.append_assoc, List.singleton_append]

/-- **After an accepted run the scope holds the frames of the open bodies and nothing else.** -/
theorem run_frames {nodes : List (Node × Nat)} {s : State} (h : K.run .start nodes = (none, s)) :
    s.scope.frames = (openBodies nodes).map K.frameOf := by
  obtain ⟨found, after, hruns, rfl⟩ := run_eq_none_iff.1 h
  exact Runs.frames [] hruns

end Checker

end ExceptionFlow
