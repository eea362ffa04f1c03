import ExceptionFlow.Proofs.Reports
import ExceptionFlow.Proofs.WellNested

set_option autoImplicit false

/-! # Units that differ in one start

A repair changes what stands at the start of one body, the tags of a function or the clauses of a
try. This module compares a unit with the same unit in which one start is replaced by another of its
kind. `run_restarted` says that the other unit is accepted and closed too, and
`runThrough_restarted` puts its outcomes together from what becomes of each node. The bodies around
the start notice nothing as long as the same types get out of it (`reportsAt_restarted`). For a try
this goes for the constructs inside as well (`reportsAt_retried`).

All of this is read off the nodes. In an accepted unit, what is reported at a node is a matter of
the nodes before it (`getElem?_runThrough`), so that no two scopes have to be followed side by side.
-/

namespace ExceptionFlow.Checker

variable (K : Checker)

/-! ## Reports from the nodes before -/

/-- What is reported at a node behind others. -/
def reportsAt (before : List (Node × Nat)) (node : Node × Nat) : List Diagnostic :=
  match node.1.role with
  | .opens start => K.startReports node.2 start
  | .closes _ =>
    (((openBodies before).map K.frameOf).head?.map (K.endReports node.2)).getD []
  | .throws construct => K.escapeReports before construct node.2

variable {K}

theorem Accepts.found_eq {before : List (Node × Nat)} {node : Node} {line : Nat}
    {found : List Diagnostic} {after : List Frame}
    (h : K.Accepts line ((openBodies before).map K.frameOf) node.role found after) :
    found = K.reportsAt before (node, line) := by
  rw [reportsAt]
  simp only [← throwReports_frameOf]
  generalize (openBodies before).map K.frameOf = frames at h ⊢
  generalize node.role = role at h ⊢
  cases h <;> rfl

/-- What escapes at a construct is reported alike if the functions around it are the same but for
    their tags and the same types of the construct escape. -/
theorem escapeReports_congr {xs ys : List (Node × Nat)} {construct : Construct}
    (hfunction : (enclosingFunction? xs).map Contract.callable
      = (enclosingFunction? ys).map Contract.callable)
    (hescapes : ∀ t ∈ K.throwModel.infer construct, (K.Escapes xs t ↔ K.Escapes ys t))
    (line : Nat) : K.escapeReports xs construct line = K.escapeReports ys construct line := by
  have hfilter : ((K.throwModel.infer construct).toList.filter fun t => K.Escapes xs t)
      = (K.throwModel.infer construct).toList.filter fun t => K.Escapes ys t :=
    List.filter_congr fun t ht => decide_eq_decide.2 (hescapes t ht)
  rw [escapeReports, escapeReports, hfilter]
  cases hxs : enclosingFunction? xs with
  | none =>
    rw [hxs, Option.map_none, eq_comm, Option.map_eq_none_iff] at hfunction
    rw [hfunction]
  | some contract =>
    rw [hxs, Option.map_some, eq_comm, Option.map_eq_some_iff] at hfunction
    obtain ⟨other, hys, hcallable⟩ := hfunction
    simp only [hys, hcallable]

theorem escapeReports_of_around {xs ys : List (Node × Nat)}
    (hfunction : enclosingFunction? xs = enclosingFunction? ys)
    (htries : enclosingTries xs = enclosingTries ys) (construct : Construct) (line : Nat) :
    K.escapeReports xs construct line = K.escapeReports ys construct line := by
  refine escapeReports_congr (congrArg _ hfunction) ?_ line
  intro t _
  rw [Escapes, Escapes, hfunction, htries]

/-- The end of a body is reported from its own nodes. -/
theorem reportsAt_end (before : List (Node × Nat)) (start : Opening) (line : Nat)
    {inner : List (Node × Nat)} (hinner : Innermost inner) {node : Node × Nat}
    (hend : node.1.isEnd = true) :
    K.reportsAt (before ++ (start.node, line) :: inner) node
      = K.endReports node.2 (K.frameOf ⟨start, inner⟩) := by
  obtain ⟨kind, hrole⟩ := Node.isEnd_iff.1 hend
  simp only [reportsAt, hrole, openBodies_start, hinner.2, if_pos hinner.1, List.nil_append,
    List.map_cons, List.head?_cons, Option.map_some, Option.getD_some]

theorem Runs.visitAll_snd {frames after : List Frame} {nodes : List (Node × Nat)}
    {found : List Diagnostic} (h : K.Runs frames nodes found after) :
    (K.visitAll ⟨frames⟩ nodes).2 = ⟨after⟩ := by
  induction h with
  | nil => rfl
  | cons haccepts _ ih =>
    simp only [visitAll, visit_eq_ok_iff.2 haccepts]
    exact ih

/-- **The outcome of a node in an accepted unit is a matter of the nodes before it.** -/
theorem getElem?_runThrough {before after : List (Node × Nat)} {node : Node × Nat} {s : State}
    (h : K.run .start (before ++ node :: after) = (none, s)) :
    (K.runThrough .start (before ++ node :: after)).1[before.length]?
      = some (.ok (K.reportsAt before node)) := by
  obtain ⟨all, last, hruns, -⟩ := run_eq_none_iff.1 h
  obtain ⟨mid, found, more, hbefore, hrest, -⟩ := runs_append_iff.1 hruns
  obtain rfl : mid = (openBodies before).map K.frameOf := Runs.frames [] hbefore
  cases hrest with
  | cons haccepts _ =>
    have hvisit := visit_eq_ok_iff.2 haccepts
    rw [Accepts.found_eq haccepts] at hvisit
    have hscope : (K.visitAll State.start.scope before).2 = _ := hbefore.visitAll_snd
    rw [runThrough_eq, visitAll_append, hscope,
      List.getElem?_append_right (Nat.le_of_eq (length_visitAll _ _)), length_visitAll,
      Nat.sub_self]
    simp only [visitAll, hvisit]
    rfl

theorem getElem?_runThrough_behind {before inner after : List (Node × Nat)}
    {start node : Node × Nat} {s : State}
    (h : K.run .start (before ++ start :: (inner ++ node :: after)) = (none, s)) :
    (K.runThrough .start (before ++ start :: (inner ++ node :: after))).1[
        before.length + (inner.length + 1)]?
      = some (.ok (K.reportsAt (before ++ start :: inner) node)) := by
  have hassoc : before ++ start :: (inner ++ node :: after)
      = (before ++ start :: inner) ++ node :: after := by
    rw [List.append_assoc, List.cons_append]
  have hposition : before.length + (inner.length + 1) = (before ++ start :: inner).length := by
    rw [List.length_append, List.length_cons]
  rw [hassoc] at h
  rw [hassoc, hposition, getElem?_runThrough h]

/-- The scope at the end of a body: its frame, and those of the bodies around it. -/
theorem frames_before_end {before inner after : List (Node × Nat)} {start : Opening} {line : Nat}
    {node : Node × Nat} {s : State}
    (h : K.run .start (before ++ (start.node, line) :: (inner ++ node :: after)) = (none, s))
    (hinner : Innermost inner) :
    (K.run .start (before ++ (start.node, line) :: inner)).2.scope.frames
      = K.frameOf ⟨start, inner⟩ ::
          ((openBodies before).map (OpenBody.extend ((start.node, line) :: inner))).map
            K.frameOf := by
  rw [← List.cons_append, ← List.append_assoc] at h
  obtain ⟨all, last, hruns, -⟩ := run_eq_none_iff.1 h
  obtain ⟨mid, found, more, hbefore, -, -⟩ := runs_append_iff.1 hruns
  have hrun := run_eq_none_iff.2 ⟨found, mid, hbefore, rfl⟩
  rw [hrun, run_frames hrun, openBodies_start, hinner.2, if_pos hinner.1]
  rfl

/-- In a closed unit every body has its end. -/
theorem exists_endsBody {before rest : List (Node × Nat)} {line : Nat} {start : Opening} {s : State}
    (h : K.run .start (before ++ (start.node, line) :: rest) = (none, s))
    (hclosed : s.scope.isEmpty = true) :
    ∃ j, endsBody (before ++ (start.node, line) :: rest) before.length j = true := by
  obtain ⟨all, after, hruns, rfl⟩ := run_eq_none_iff.1 h
  obtain rfl : after = [] := List.isEmpty_iff.1 hclosed
  obtain ⟨mid, found, more, -, hbehind, -⟩ := runs_append_iff.1 hruns
  cases hbehind with
  | cons hstart hrest =>
    rw [start.role_node] at hstart
    cases hstart with
    | opens admitted =>
      have hends := hrest.endsAll
      rw [List.map_cons, startFrame_kind] at hends
      obtain ⟨inner, endLine, after, hinner, rfl, -⟩ := hends
      refine ⟨_, (endsBody_behind before start line inner _ after).2 ⟨?_, hinner.closed⟩⟩
      exact Node.isEnd_iff.2 ⟨_, FrameKind.role_endNode _⟩

/-! ## Another start -/

section Restarted

variable {before : List (Node × Nat)} {start other : Opening} {line : Nat}
  {rest : List (Node × Nat)}

theorem openKinds_restarted (before : List (Node × Nat)) (hkind : other.kind = start.kind)
    (line : Nat) (inner : List (Node × Nat)) :
    openKinds (before ++ (other.node, line) :: inner)
      = openKinds (before ++ (start.node, line) :: inner) := by
  rw [openKinds, openKinds, openings_start, openings_start]
  split
  · rw [List.map_append, List.map_append, List.map_cons, List.map_cons, hkind]
  · rfl

/-- Which nodes may stand where they stand is a matter of the kinds of the starts before them. -/
theorem Faultless.restarted (hkind : other.kind = start.kind)
    (hrefusal : K.refusal? other = K.refusal? start)
    (h : K.Faultless (before ++ (start.node, line) :: rest)) :
    K.Faultless (before ++ (other.node, line) :: rest) := by
  intro xs node nodeLine ys e hsplit hrefuses
  rcases append_cons_cases hsplit with ⟨mid, rfl, rfl⟩ | ⟨rfl, hnode, rfl⟩ | ⟨mid, rfl, rfl⟩
  · refine h xs node nodeLine (mid ++ (start.node, line) :: rest) e ?_ hrefuses
    rw [List.append_assoc, List.cons_append]
  · obtain ⟨rfl, rfl⟩ := Prod.mk.inj hnode
    rw [other.role_node, ← refusal?_eq_some_iff, hrefusal] at hrefuses
    refine h xs start.node nodeLine ys e rfl ?_
    rw [start.role_node]
    exact refusal?_eq_some_iff.1 hrefuses
  · rw [openKinds_restarted before hkind] at hrefuses
    refine h (before ++ (start.node, line) :: mid) node nodeLine ys e ?_ hrefuses
    rw [List.append_assoc, List.cons_append]

theorem run_fst_restarted (hkind : other.kind = start.kind)
    (hrefusal : K.refusal? other = K.refusal? start) {s : State}
    (h : K.run .start (before ++ (start.node, line) :: rest) = (none, s)) :
    (K.run .start (before ++ (other.node, line) :: rest)).1 = none := by
  have hfaultless := run_fst_eq_none_iff.1 (congrArg Prod.fst h)
  exact run_fst_eq_none_iff.2 (hfaultless.restarted hkind hrefusal)

/-- A unit stays accepted and closed when a body starts in another way. -/
theorem run_restarted (hkind : other.kind = start.kind)
    (hrefusal : K.refusal? other = K.refusal? start) {s : State}
    (h : K.run .start (before ++ (start.node, line) :: rest) = (none, s))
    (hclosed : s.scope.isEmpty = true) :
    ∃ t, K.run .start (before ++ (other.node, line) :: rest) = (none, t) ∧
      t.scope.isEmpty = true := by
  have hrun := run_eq_of_fst (run_fst_restarted hkind hrefusal h)
  refine ⟨_, hrun, ?_⟩
  have hkinds := run_kinds hrun
  rw [openKinds_restarted before hkind, ← run_kinds h,
    show s.scope.frames = [] from List.isEmpty_iff.1 hclosed] at hkinds
  exact List.isEmpty_iff.2 (List.map_eq_nil_iff.1 hkinds)

/-- The outcomes of a unit in which a body starts in another way, given what becomes of the outcome
    at each position. Before the start nothing changes. -/
theorem runThrough_restarted (hkind : other.kind = start.kind)
    (hrefusal : K.refusal? other = K.refusal? start) {s : State}
    (h : K.run .start (before ++ (start.node, line) :: rest) = (none, s))
    {edit : Nat → Outcome → Outcome}
    (hahead : ∀ j < before.length, ∀ outcome, edit j outcome = outcome)
    (hstart : ∀ outcome, edit before.length outcome = .ok (K.startReports line other))
    (hbehind : ∀ inner node after, rest = inner ++ node :: after →
      edit (before.length + (inner.length + 1))
          (.ok (K.reportsAt (before ++ (start.node, line) :: inner) node))
        = .ok (K.reportsAt (before ++ (other.node, line) :: inner) node)) :
    (K.runThrough .start (before ++ (other.node, line) :: rest)).1
      = (K.runThrough .start (before ++ (start.node, line) :: rest)).1.mapIdx edit := by
  have hother := run_eq_of_fst (run_fst_restarted hkind hrefusal h)
  apply List.ext_getElem?
  intro j
  rw [List.getElem?_mapIdx]
  cases hj : (before ++ (other.node, line) :: rest)[j]? with
  | none =>
    have hlength (o : Opening) :
        (K.runThrough .start (before ++ (o.node, line) :: rest)).1.length ≤ j := by
      rw [runThrough_eq, length_visitAll]
      simpa using hj
    rw [List.getElem?_eq_none (hlength other), List.getElem?_eq_none (hlength start)]
    rfl
  | some node =>
    obtain ⟨xs, ys, hsplit, rfl⟩ := exists_append_cons_of_getElem? hj
    rcases append_cons_cases hsplit with ⟨mid, rfl, rfl⟩ | ⟨rfl, rfl, rfl⟩ | ⟨mid, rfl, rfl⟩
    · rw [List.append_assoc, List.cons_append] at h hother ⊢
      rw [List.append_assoc, List.cons_append, getElem?_runThrough h, getElem?_runThrough hother,
        Option.map_some, hahead _ (by simp)]
    · rw [getElem?_runThrough h, getElem?_runThrough hother, Option.map_some, hstart]
      simp only [reportsAt, Opening.role_node]
    · rw [List.length_append, List.length_cons, getElem?_runThrough_behind h,
        getElem?_runThrough_behind hother, Option.map_some, hbehind mid node ys rfl]

end Restarted

/-! ## What gets out of the body -/

variable (K) in
/-- What comes to a body from the nodes behind its start gets out of it under both of two starts or
    under none. -/
def PassesAlike (start other : Opening) (inner : List (Node × Nat)) : Prop :=
  ∀ xs node ys, inner = xs ++ node :: ys → unmatchedEnds xs = 0 →
    ∀ t ∈ K.thrownPast (openings xs) node.1.role,
      other.passes K.hierarchy t = start.passes K.hierarchy t

theorem PassesAlike.of_append {start other : Opening} {inner more : List (Node × Nat)}
    (h : K.PassesAlike start other (inner ++ more)) : K.PassesAlike start other inner := by
  rintro xs node ys rfl hends t ht
  refine h xs node (ys ++ more) ?_ hends t ht
  rw [List.append_assoc, List.cons_append]

section Passing

variable (before : List (Node × Nat)) {start other : Opening} (line : Nat)
  {inner : List (Node × Nat)}

theorem thrownPast_restarted {role : Role}
    (h : unmatchedEnds inner = 0 → ∀ t ∈ K.thrownPast (openings inner) role,
      other.passes K.hierarchy t = start.passes K.hierarchy t) :
    K.thrownPast (openings (before ++ (other.node, line) :: inner)) role
      = K.thrownPast (openings (before ++ (start.node, line) :: inner)) role := by
  rw [openings_start, openings_start]
  split
  · rename_i hends
    cases role with
    | opens start => rfl
    | closes kind => rfl
    | throws construct =>
      refine List.filter_congr ?_
      intro t ht
      rw [List.all_append, List.all_append, List.all_cons, List.all_cons]
      -- only what gets past the bodies inside comes to the start at all
      by_cases hinside : (openings inner).all (Opening.passes K.hierarchy t) = true
      · rw [h hends t (List.mem_filter.2 ⟨ht, hinside⟩)]
      · rw [Bool.not_eq_true] at hinside
        rw [hinside, Bool.false_and, Bool.false_and]
  · rfl

theorem leavingAfter_restarted (nodes : List (Node × Nat))
    (h : K.PassesAlike start other (inner ++ nodes)) :
    K.leavingAfter (before ++ (other.node, line) :: inner) nodes
      = K.leavingAfter (before ++ (start.node, line) :: inner) nodes := by
  induction nodes generalizing inner with
  | nil => rfl
  | cons node rest ih =>
    have hrest : K.PassesAlike start other ((inner ++ [node]) ++ rest) := by
      rwa [List.append_assoc, List.singleton_append]
    rw [leavingAfter, leavingAfter, thrownPast_restarted before line (h inner node rest rfl),
      List.append_assoc, List.append_assoc, List.cons_append, List.cons_append, ih hrest]

/-- The frame of a body around the start does not depend on it. -/
theorem frameOf_restarted (h : K.PassesAlike start other inner) (b : OpenBody) :
    K.frameOf (b.extend ((other.node, line) :: inner))
      = K.frameOf (b.extend ((start.node, line) :: inner)) := by
  have hinner := @leavingAfter_restarted K b.inner start other line [] inner h
  have hthrown (o : Opening) : K.thrownPast (openings b.inner) o.node.role = [] := by
    rw [o.role_node]
    rfl
  simp only [frameOf, OpenBody.extend, leaving, leavingAfter_append, leavingAfter, List.nil_append,
    hinner, hthrown]

/-- **A node that throws nothing is reported as before, unless it ends the body.** -/
theorem reportsAt_restarted (h : K.PassesAlike start other inner) {node : Node × Nat}
    (hthrows : node.1.isThrowing = false)
    (hend : ¬ (node.1.isEnd = true ∧ Innermost inner)) :
    K.reportsAt (before ++ (other.node, line) :: inner) node
      = K.reportsAt (before ++ (start.node, line) :: inner) node := by
  cases hrole : node.1.role with
  | opens opening => simp only [reportsAt, hrole]
  | throws construct =>
    rw [Node.isThrowing_iff.2 ⟨construct, Node.eq_node_of_role hrole⟩] at hthrows
    cases hthrows
  | closes kind =>
    simp only [reportsAt, hrole, openBodies_start]
    cases hinner : openBodies inner with
    | cons b rest => rfl
    | nil =>
      -- the node ends a body around the start, whose frame is the same
      have hends : unmatchedEnds inner ≠ 0 := fun hends =>
        hend ⟨Node.isEnd_iff.2 ⟨kind, hrole⟩, hends, hinner⟩
      simp only [if_neg hends, List.nil_append, List.map_map, Function.comp_def,
        frameOf_restarted line h]

variable {clauses others : List CatchClause}

/-- What escapes at a construct behind the start of a try is a matter of the types that come to the
    try from it. -/
theorem escapes_retried {construct : Construct}
    (h : unmatchedEnds inner = 0 → ∀ t ∈ K.thrownPast (openings inner) (.throws construct),
      (Opening.tryBody others).passes K.hierarchy t
        = (Opening.tryBody clauses).passes K.hierarchy t)
    {thrown : ClassName} (hthrown : thrown ∈ K.throwModel.infer construct) :
    K.Escapes (before ++ (.tryStart others, line) :: inner) thrown
      ↔ K.Escapes (before ++ (.tryStart clauses, line) :: inner) thrown := by
  rw [Escapes, Escapes]
  by_cases hends : unmatchedEnds inner = 0
  · simp only [enclosingFunction?_tryStart _ _ _ hends, enclosingTries_tryStart _ _ _ hends,
      List.forall_mem_append]
    refine and_congr_right fun _ => and_congr_left fun _ => and_congr_right fun hinside => ?_
    by_cases hfunction : enclosingFunction? inner = none
    · -- no try inside catches the type, and no function is in its way to this one
      have hpast : thrown ∈ K.thrownPast (openings inner) (.throws construct) := by
        refine List.mem_filter.2 ⟨hthrown, List.all_eq_true.2 fun o ho => passes_iff.2 ?_⟩
        obtain ⟨inside, rfl, hmem⟩ := mem_innermostTries hfunction ho
        exact ⟨inside, rfl, hinside inside hmem⟩
      have hcatches := decide_eq_decide.1 (Bool.not_inj (h hends thrown hpast))
      simp only [if_pos hfunction, List.forall_mem_cons, hcatches]
    · simp only [if_neg hfunction]
  · simp only [enclosingFunction?, enclosingTries, openings_tryStart, if_neg hends]

/-- **Where the same types get out of a try, a node is reported as before, unless it ends the
    body.** -/
theorem reportsAt_retried {node : Node × Nat} {after : List (Node × Nat)}
    (h : K.PassesAlike (.tryBody clauses) (.tryBody others) (inner ++ node :: after))
    (hend : ¬ (node.1.isEnd = true ∧ Innermost inner)) :
    K.reportsAt (before ++ (.tryStart others, line) :: inner) node
      = K.reportsAt (before ++ (.tryStart clauses, line) :: inner) node := by
  cases hthrowing : node.1.isThrowing with
  | false => exact reportsAt_restarted before line h.of_append hthrowing hend
  | true =>
    obtain ⟨construct, hnode⟩ := Node.isThrowing_iff.1 hthrowing
    have hpast := h inner node after rfl
    simp only [reportsAt, hnode, Node.role] at hpast ⊢
    refine escapeReports_congr ?_ (fun t ht => escapes_retried before line hpast ht) node.2
    by_cases hends : unmatchedEnds inner = 0
    · simp only [enclosingFunction?_tryStart _ _ _ hends]
    · simp only [enclosingFunction?, openings_tryStart, if_neg hends]

end Passing

end ExceptionFlow.Checker
