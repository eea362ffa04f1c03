import ExceptionFlow.Proofs.Contracts

set_option autoImplicit false

/-! # Declaring what is missing

A function that throws what it does not declare is repaired by declaring it: the constructs that
were reported are reported no more, no tag that was added is unused, and nothing else in the unit is
reported in another way.

Two facts carry this. A type that escaped at a construct is covered by a tag of its own, so that the
construct falls silent. And such a type has left the body of the function, so that the tag is in
use. -/

namespace ExceptionFlow

/-- The contract with further tags behind its own. -/
def Contract.declaring (contract : Contract) (added : List ThrowsTag) : Contract :=
  { contract with tags := contract.tags ++ added }

/-- A handler of the thrown type itself intercepts every value. -/
theorem Hierarchy.interception_self (H : Hierarchy) (type : ClassName) :
    H.interception type type = .always := by
  simp [interception, isSameOrSubclass, isSameClass]

namespace Checker

variable (K : Checker)

/-- The types that are reported as missing at the nodes that throw in the function that starts at a
    position. -/
def missingIn (nodes : List (Node × Nat)) (i : Nat) : List ClassName :=
  (K.runThrough .start nodes).1.zipIdx.flatMap fun visited =>
    if throwsIn nodes i visited.2 then
      (visited.1.diagnostics.filter fun d => d.code == .missingThrows).flatMap Diagnostic.names
    else []

variable {K} {before rest : List (Node × Nat)} {contract : Contract} {line : Nat}

/-- The types that a construct directly in a function reports as missing. -/
theorem mem_missing_names {inner : List (Node × Nat)} (hdirect : DirectlyInside inner)
    {construct : Construct} {throwLine : Nat} {type : ClassName} :
    type ∈ ((K.escapeReports (before ++ (.functionStart contract, line) :: inner) construct
        throwLine).filter fun d => d.code == .missingThrows).flatMap Diagnostic.names
      ↔ K.isExempt contract.callable = false ∧ type ∈ K.throwModel.infer construct ∧
        K.Escapes (before ++ (.functionStart contract, line) :: inner) type := by
  rw [escapeReports_directlyInside _ _ _ _ hdirect]
  cases K.isExempt contract.callable with
  | true => simp
  | false =>
    simp only [Bool.false_eq_true, if_false]
    rw [List.filter_eq_self.2, List.flatMap_map]
    · simp [report, TypeSet.mem_def]
    · intro d hd
      obtain ⟨t, -, rfl⟩ := List.mem_map.1 hd
      rfl

/-- What is missing in a function is what escapes directly in it, unless the function is exempt. -/
theorem mem_missingIn {s : State}
    (h : K.run .start (before ++ (.functionStart contract, line) :: rest) = (none, s))
    {type : ClassName} :
    type ∈ K.missingIn (before ++ (.functionStart contract, line) :: rest) before.length
      ↔ ∃ inner construct throwLine after,
          rest = inner ++ (.throwing construct, throwLine) :: after ∧ DirectlyInside inner ∧
          K.isExempt contract.callable = false ∧ type ∈ K.throwModel.infer construct ∧
          K.Escapes (before ++ (.functionStart contract, line) :: inner) type := by
  rw [missingIn, List.mem_flatMap]
  constructor
  · rintro ⟨⟨outcome, j⟩, hvisited, htype⟩
    split at htype
    · rename_i hthrows
      obtain ⟨inner, construct, throwLine, after, rfl, rfl, hdirect⟩ := exists_of_throwsIn hthrows
      rw [List.mem_zipIdx_iff_getElem?, getElem?_runThrough_behind h] at hvisited
      obtain rfl := Option.some.inj hvisited
      exact ⟨inner, construct, throwLine, after, rfl, hdirect, (mem_missing_names hdirect).1 htype⟩
    · cases htype
  · rintro ⟨inner, construct, throwLine, after, rfl, hdirect, hmissing⟩
    refine ⟨(_, before.length + (inner.length + 1)),
      List.mem_zipIdx_iff_getElem?.2 (getElem?_runThrough_behind h), ?_⟩
    rw [throwsIn_behind, if_pos (by simp [Node.isThrowing, hdirect])]
    exact (mem_missing_names hdirect).2 hmissing

/-- A construct that stands directly in a function falls silent when all that escapes there is
    declared. -/
theorem escapeReports_declaring {inner : List (Node × Nat)} (hdirect : DirectlyInside inner)
    {added : List ThrowsTag} {construct : Construct}
    (hadded : ∀ type ∈ K.throwModel.infer construct, K.isExempt contract.callable = false →
      K.Escapes (before ++ (.functionStart contract, line) :: inner) type →
        type ∈ added.map ThrowsTag.type) (throwLine : Nat) :
    K.escapeReports (before ++ (.functionStart (contract.declaring added), line) :: inner) construct
      throwLine = [] := by
  rw [escapeReports_directlyInside _ _ _ _ hdirect]
  split
  · rfl
  · rename_i hexempt
    rw [List.map_eq_nil_iff, List.filter_eq_nil_iff]
    intro type hthrown hescapes
    obtain ⟨hchecked, htries, htags⟩ :=
      (escapes_directlyInside _ _ _ _ hdirect type).1 (of_decide_eq_true hescapes)
    -- what escapes with more tags escapes with fewer, so one of those that were added covers it
    have hbefore : K.Escapes (before ++ (.functionStart contract, line) :: inner) type :=
      (escapes_directlyInside _ _ _ _ hdirect type).2
        ⟨hchecked, htries, fun tag htag => htags tag (List.mem_append_left _ htag)⟩
    obtain ⟨tag, htag, rfl⟩ :=
      List.mem_map.1 (hadded type hthrown (Bool.not_eq_true _ ▸ hexempt) hbefore)
    exact htags tag (List.mem_append_right _ htag) (K.hierarchy.interception_self tag.type)

/-- What escapes directly in a function has left its body. -/
theorem Escapes.leaves {inner after : List (Node × Nat)} (hdirect : DirectlyInside inner)
    {construct : Construct} {throwLine : Nat} {type : ClassName}
    (hthrown : type ∈ K.throwModel.infer construct)
    (h : K.Escapes (before ++ (.functionStart contract, line) :: inner) type) :
    K.Leaves (inner ++ (.throwing construct, throwLine) :: after) type := by
  obtain ⟨-, htries, -⟩ := (escapes_directlyInside _ _ _ _ hdirect type).1 h
  exact leaves_of_uncaught hdirect.2 hthrown htries throwLine after

/-- Tags for types that leave the body are in use, and change nothing for the others. -/
theorem unusedReports_declaring {added : List ThrowsTag} {body : List (Node × Nat)}
    (hleaves : ∀ type ∈ added.map ThrowsTag.type, K.Leaves body type) (endLine : Nat) :
    K.unusedReports (contract.declaring added) body endLine
      = K.unusedReports contract body endLine := by
  have hused : (((added.map ThrowsTag.type).removeAll (contract.tags.map ThrowsTag.type)).eraseDups
      |>.filter fun type => K.UnusedIn contract.callable body type) = [] := by
    rw [List.filter_eq_nil_iff]
    intro type htype hunused
    have hadded : type ∈ added.map ThrowsTag.type :=
      (List.mem_filter.1 (List.mem_eraseDups.1 htype)).1
    obtain ⟨-, -, -, -, hnone⟩ := of_decide_eq_true hunused
    refine hnone ⟨type, hleaves type hadded, ?_⟩
    rw [K.hierarchy.interception_self]
    decide
  have htypes : ((contract.declaring added).tags.map ThrowsTag.type).eraseDups
      = (contract.tags.map ThrowsTag.type).eraseDups ++
        ((added.map ThrowsTag.type).removeAll (contract.tags.map ThrowsTag.type)).eraseDups := by
    rw [Contract.declaring, List.map_append, List.eraseDups_append]
  show (List.filter (fun type => decide (K.UnusedIn contract.callable body type)) _).map _ = _
  rw [htypes, List.filter_append, hused, List.append_nil]
  rfl

/-- Whatever is missing in a function leaves the nodes up to its end. -/
theorem leaves_of_mem_missingIn {s : State} {inner after : List (Node × Nat)} {node : Node × Nat}
    {kind : FrameKind}
    (h : K.run .start (before ++ (.functionStart contract, line) :: (inner ++ node :: after))
      = (none, s))
    (hrole : node.1.role = .closes kind) (hopen : openBodies inner = []) {type : ClassName}
    (htype : type ∈ K.missingIn
      (before ++ (.functionStart contract, line) :: (inner ++ node :: after)) before.length) :
    K.Leaves inner type := by
  obtain ⟨xs, construct, throwLine, ys, hsplit, hdirect, -, hthrown, hescapes⟩ :=
    (mem_missingIn h).1 htype
  have hend : node.1.isEnd = true := Node.isEnd_iff.2 ⟨kind, hrole⟩
  obtain ⟨mid, rfl⟩ := inside_before_end hsplit.symm hdirect.1 rfl hend hopen
  exact Escapes.leaves hdirect hthrown hescapes

/-- What is reported at a node behind the start of a function that declares what was missing in it.
    -/
theorem reportsAt_declaring {s : State} {inner after : List (Node × Nat)} {node : Node × Nat}
    {added : List ThrowsTag}
    (h : K.run .start (before ++ (.functionStart contract, line) :: (inner ++ node :: after))
      = (none, s))
    (hadded : ∀ type, type ∈ added.map ThrowsTag.type ↔ type ∈ K.missingIn
      (before ++ (.functionStart contract, line) :: (inner ++ node :: after)) before.length) :
    K.reportsAt (before ++ (.functionStart (contract.declaring added), line) :: inner) node
      = if node.1.isThrowing = true ∧ DirectlyInside inner then []
        else K.reportsAt (before ++ (.functionStart contract, line) :: inner) node := by
  obtain ⟨node, nodeLine⟩ := node
  split
  · rename_i hthrows
    obtain ⟨hthrowing, hdirect⟩ := hthrows
    obtain ⟨construct, rfl⟩ := Node.isThrowing_iff.1 hthrowing
    refine escapeReports_declaring hdirect ?_ nodeLine
    intro type hthrown hexempt hescapes
    exact (hadded type).2 ((mem_missingIn h).2
      ⟨inner, construct, nodeLine, after, rfl, hdirect, hexempt, hthrown, hescapes⟩)
  · rename_i hthrows
    by_cases hend : node.isEnd = true ∧ Innermost inner
    · -- the end of the function itself
      obtain ⟨hisEnd, hends, hopen⟩ := hend
      obtain ⟨kind, hrole⟩ := Node.isEnd_iff.1 hisEnd
      rw [reportsAt_functionEnd _ _ _ _ hends hopen hrole,
        reportsAt_functionEnd _ _ _ _ hends hopen hrole, unusedReports_declaring]
      intro type htype
      exact leaves_of_mem_missingIn h hrole hopen ((hadded type).1 htype)
    · exact reportsAt_redeclared before contract _ line inner hthrows hend

/-- **Declaring what is missing repairs a function.** When a function of a closed unit declares the
    types that are missing in it, in whatever order and under whatever description, the unit is
    accepted and closed as before. The constructs that throw in the function are reported no more,
    its start is judged by its new tags, and every other outcome stays what it was, also at the end
    of the function. -/
theorem declaring_missing_repairs (K : Checker) {nodes : List (Node × Nat)} {i line : Nat}
    {contract : Contract} {added : List ThrowsTag} {s : State}
    (h : K.run .start nodes = (none, s)) (hclosed : s.scope.isEmpty = true)
    (hstart : nodes[i]? = some (.functionStart contract, line))
    (hadded : ∀ type, type ∈ added.map ThrowsTag.type ↔ type ∈ K.missingIn nodes i) :
    ∃ t, K.run .start (nodes.set i (.functionStart (contract.declaring added), line)) = (none, t) ∧
      t.scope.isEmpty = true ∧
      (K.runThrough .start (nodes.set i (.functionStart (contract.declaring added), line))).1
        = (K.runThrough .start nodes).1.mapIdx fun j outcome =>
            if j = i then .ok (K.uselessTags (contract.declaring added) line)
            else if throwsIn nodes i j then .ok []
            else outcome := by
  obtain ⟨before, rest, rfl, rfl⟩ := exists_append_cons_of_getElem? hstart
  have hcallable : (contract.declaring added).callable = contract.callable := rfl
  obtain ⟨t, hrun, hempty⟩ := run_redeclared hcallable h hclosed
  rw [set_append_cons]
  refine ⟨t, hrun, hempty, runThrough_redeclared hcallable h ?_ ?_ ?_⟩
  · intro j hj outcome
    have hnot : ¬ throwsIn (before ++ (.functionStart contract, line) :: rest) before.length j :=
      fun hthrows => Nat.lt_asymm hj (lt_of_throwsIn hthrows)
    rw [if_neg (Nat.ne_of_lt hj), if_neg hnot]
  · intro outcome
    exact if_pos rfl
  · rintro inner node after rfl
    rw [if_neg (by omega), throwsIn_behind, reportsAt_declaring h hadded]
    by_cases hthrows : node.1.isThrowing = true ∧ DirectlyInside inner
    · rw [if_pos hthrows, if_pos (by simpa using hthrows)]
    · rw [if_neg hthrows, if_neg (by simpa using hthrows)]

/-- A function with a tag that nothing uses, in which another function stands. Something is missing
    in each of them. -/
def leaksInBoth : List (Node × Nat) :=
  [(.functionStart ⟨.closure, [⟨"DomainException", none⟩]⟩, 1),
   (.tryStart [⟨[⟨"RangeException"⟩], 7⟩], 2),
   (.throwNew ⟨"RuntimeException"⟩, 3),
   (.functionStart ⟨.closure, []⟩, 4),
   (.throwNew ⟨"LogicException"⟩, 5),
   (.functionEnd, 6),
   (.tryEnd, 7),
   (.throwNew ⟨"RangeException"⟩, 8),
   (.functionEnd, 9)]

def missingTags : List ThrowsTag := [⟨"RangeException", none⟩, ⟨"RuntimeException", none⟩]

/-- The outer function is repaired. Its unused tag is reported as before, and so is what is missing
    in the inner function. -/
theorem declaring_missing_repairs_outer :
    small.missingIn leaksInBoth 0 = [⟨"RuntimeException"⟩, ⟨"RangeException"⟩] ∧
    ∃ t, small.run .start (leaksInBoth.set 0
          (.functionStart (.declaring ⟨.closure, [⟨"DomainException", none⟩]⟩ missingTags), 1))
        = (none, t) ∧
      t.scope.isEmpty = true ∧
      (small.runThrough .start (leaksInBoth.set 0
          (.functionStart (.declaring ⟨.closure, [⟨"DomainException", none⟩]⟩ missingTags), 1))
        ).1.tail.map Outcome.diagnostics
          = [[], [], [], [small.report 5 .missingThrows [⟨"LogicException"⟩]], [], [], [],
              [small.report 9 .unusedThrows [⟨"DomainException"⟩]]] := by
  have hrun : (small.run .start leaksInBoth).1 = none := by decide +kernel
  have hclosed : (small.run .start leaksInBoth).2.scope.isEmpty = true := by decide +kernel
  have hmissing : small.missingIn leaksInBoth 0 = [⟨"RuntimeException"⟩, ⟨"RangeException"⟩] := by
    decide +kernel
  have htypes : missingTags.map ThrowsTag.type = [⟨"RangeException"⟩, ⟨"RuntimeException"⟩] := by
    decide +kernel
  have hadded (type : ClassName) :
      type ∈ missingTags.map ThrowsTag.type ↔ type ∈ small.missingIn leaksInBoth 0 := by
    simp [htypes, hmissing, or_comm]
  obtain ⟨t, ht, hempty, houtcomes⟩ :=
    declaring_missing_repairs small (run_eq_of_fst hrun) hclosed rfl hadded
  refine ⟨hmissing, t, ht, hempty, ?_⟩
  rw [houtcomes]
  decide +kernel

end Checker

end ExceptionFlow
