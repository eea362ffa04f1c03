import ExceptionFlow.Proofs.Contracts

set_option autoImplicit false

/-! # Deleting what is unused

A function that declares types for nothing is tidied by deleting their tags: its end reports
nothing any more, and nothing else in the unit is reported in another way. Above all no construct in
the function comes to miss a tag.

A tag is reported as unused because no type that leaves the body has to do with it. Every type that
escapes at a construct of the function does leave the body, so a deleted tag covered none of them.
And whether a tag is unused does not depend on the other tags, so those that are kept stay in use.
-/

namespace ExceptionFlow

/-- The contract without the tags for some types. -/
def Contract.dropping (contract : Contract) (types : List ClassName) : Contract :=
  { contract with tags := contract.tags.filter fun tag => tag.type ∉ types }

namespace Checker

variable (K : Checker)

/-- The types that are reported as unused at the end of the function that starts at a position. -/
def unusedIn (nodes : List (Node × Nat)) (i : Nat) : List ClassName :=
  (K.runThrough .start nodes).1.zipIdx.flatMap fun visited =>
    if endsBody nodes i visited.2 then
      (visited.1.diagnostics.filter fun d => d.code == .unusedThrows).flatMap Diagnostic.names
    else []

variable {K} {before rest : List (Node × Nat)} {contract : Contract} {line : Nat}

/-! ## What is unused -/

/-- The types that the end of a function reports as unused. -/
theorem mem_unused_names {body : List (Node × Nat)} {endLine : Nat} {type : ClassName} :
    type ∈ ((K.unusedReports contract body endLine).filter fun d =>
        d.code == .unusedThrows).flatMap Diagnostic.names
      ↔ type ∈ contract.tags.map ThrowsTag.type ∧ K.UnusedIn contract.callable body type := by
  rw [unusedReports, List.filter_eq_self.2, List.flatMap_map]
  · simp [report, List.mem_eraseDups]
  · intro d hd
    obtain ⟨t, -, rfl⟩ := List.mem_map.1 hd
    rfl

/-- What is unused in a function is what its tags name for nothing, judged by the nodes before its
    end. -/
theorem mem_unusedIn {s : State}
    (h : K.run .start (before ++ (.functionStart contract, line) :: rest) = (none, s))
    {type : ClassName} :
    type ∈ K.unusedIn (before ++ (.functionStart contract, line) :: rest) before.length
      ↔ ∃ inner node after, rest = inner ++ node :: after ∧ node.1.isEnd = true ∧
          Innermost inner ∧ type ∈ contract.tags.map ThrowsTag.type ∧
          K.UnusedIn contract.callable inner type := by
  rw [unusedIn, List.mem_flatMap]
  constructor
  · rintro ⟨⟨outcome, j⟩, hvisited, htype⟩
    split at htype
    · rename_i hends
      obtain ⟨inner, node, after, rfl, rfl, hend, hinner⟩ :=
        @exists_of_endsBody before rest (.function contract) line j hends
      obtain ⟨kind, hrole⟩ := Node.isEnd_iff.1 hend
      rw [List.mem_zipIdx_iff_getElem?, getElem?_runThrough_behind h,
        reportsAt_functionEnd _ _ _ _ hinner.1 hinner.2 hrole] at hvisited
      obtain rfl := Option.some.inj hvisited
      exact ⟨inner, node, after, rfl, hend, hinner, mem_unused_names.1 htype⟩
    · cases htype
  · rintro ⟨inner, node, after, rfl, hend, hinner, hunused⟩
    obtain ⟨kind, hrole⟩ := Node.isEnd_iff.1 hend
    have hvisited := getElem?_runThrough_behind h
    rw [reportsAt_functionEnd _ _ _ _ hinner.1 hinner.2 hrole] at hvisited
    have hends : endsBody (before ++ (.functionStart contract, line) :: (inner ++ node :: after))
        before.length (before.length + (inner.length + 1)) = true :=
      (endsBody_behind before (.function contract) line inner node after).2 ⟨hend, hinner⟩
    refine ⟨(_, before.length + (inner.length + 1)),
      List.mem_zipIdx_iff_getElem?.2 hvisited, ?_⟩
    rw [if_pos hends]
    exact mem_unused_names.2 hunused

/-! ## Without the unused tags -/

theorem mem_tags_dropping {types : List ClassName} {tag : ThrowsTag} :
    tag ∈ (contract.dropping types).tags ↔ tag ∈ contract.tags ∧ tag.type ∉ types := by
  simp [Contract.dropping]

/-- Once the tags are deleted that are reported as unused, none is left to be reported. -/
theorem unusedReports_dropping {types : List ClassName} {body : List (Node × Nat)}
    (h : ∀ type ∈ contract.tags.map ThrowsTag.type, K.UnusedIn contract.callable body type →
      type ∈ types) (endLine : Nat) :
    K.unusedReports (contract.dropping types) body endLine = [] := by
  rw [unusedReports, List.map_eq_nil_iff, List.filter_eq_nil_iff]
  intro type htype hunused
  obtain ⟨tag, htag, rfl⟩ := List.mem_map.1 (List.mem_eraseDups.1 htype)
  obtain ⟨htag, hkept⟩ := mem_tags_dropping.1 htag
  exact hkept (h _ (List.mem_map_of_mem htag) (of_decide_eq_true hunused))

/-- A construct directly in a function is reported as before when the tags that are deleted cover
    nothing that leaves the tries around it. -/
theorem escapeReports_dropping {types : List ClassName} {inner : List (Node × Nat)}
    (hdirect : DirectlyInside inner) {construct : Construct}
    (h : ∀ t ∈ K.throwModel.infer construct,
      (∀ clauses ∈ enclosingTries inner, ¬ Catches K.hierarchy clauses t) →
        ∀ type ∈ types, K.hierarchy.interception type t ≠ .always) (throwLine : Nat) :
    K.escapeReports (before ++ (.functionStart (contract.dropping types), line) :: inner) construct
        throwLine
      = K.escapeReports (before ++ (.functionStart contract, line) :: inner) construct
          throwLine := by
  have hfunction (c : Contract) :
      (enclosingFunction? (before ++ (.functionStart c, line) :: inner)).map Contract.callable
        = some c.callable := by
    rw [enclosingFunction?_start _ _ _ hdirect.1, hdirect.2]
    rfl
  refine escapeReports_congr ?_ ?_ throwLine
  · rw [hfunction, hfunction]
    rfl
  intro t hthrown
  rw [escapes_directlyInside _ _ _ _ hdirect, escapes_directlyInside _ _ _ _ hdirect]
  refine and_congr_right fun _ => and_congr_right fun htries => ?_
  constructor
  · intro hkept tag htag
    by_cases hdropped : tag.type ∈ types
    · exact h t hthrown htries tag.type hdropped
    · exact hkept tag (mem_tags_dropping.2 ⟨htag, hdropped⟩)
  · intro hall tag htag
    exact hall tag (mem_tags_dropping.1 htag).1

/-- A type that gets past the tries around a construct of a function has nothing to do with an
    unused tag of the function. -/
theorem interception_unusedIn {s : State} {inner after : List (Node × Nat)} {construct : Construct}
    {throwLine : Nat}
    (h : K.run .start (before ++ (.functionStart contract, line) ::
      (inner ++ (.throwing construct, throwLine) :: after)) = (none, s))
    (hdirect : DirectlyInside inner) {t type : ClassName}
    (hthrown : t ∈ K.throwModel.infer construct)
    (htries : ∀ clauses ∈ enclosingTries inner, ¬ Catches K.hierarchy clauses t)
    (htype : type ∈ K.unusedIn (before ++ (.functionStart contract, line) ::
      (inner ++ (.throwing construct, throwLine) :: after)) before.length) :
    K.hierarchy.interception type t = .never := by
  obtain ⟨body, node, behind, hsplit, hend, hbody, -, -, -, -, -, hnone⟩ := (mem_unusedIn h).1 htype
  obtain ⟨mid, rfl⟩ := inside_before_end hsplit hdirect.1 rfl hend hbody.2
  have hleaves := leaves_of_uncaught hdirect.2 hthrown htries throwLine mid
  exact Decidable.byContradiction fun hsome => hnone ⟨t, hleaves, hsome⟩

/-- What is reported at a node behind the start of a function without its unused tags. -/
theorem reportsAt_dropping {s : State} {inner after : List (Node × Nat)} {node : Node × Nat}
    (h : K.run .start (before ++ (.functionStart contract, line) :: (inner ++ node :: after))
      = (none, s)) :
    K.reportsAt (before ++ (.functionStart (contract.dropping (K.unusedIn
        (before ++ (.functionStart contract, line) :: (inner ++ node :: after)) before.length)),
          line) :: inner) node
      = if endsBody (before ++ (.functionStart contract, line) :: (inner ++ node :: after))
          before.length (before.length + (inner.length + 1)) then []
        else K.reportsAt (before ++ (.functionStart contract, line) :: inner) node := by
  have hends : endsBody (before ++ (.functionStart contract, line) :: (inner ++ node :: after))
      before.length (before.length + (inner.length + 1)) = true ↔ _ :=
    endsBody_behind before (.function contract) line inner node after
  obtain ⟨node, nodeLine⟩ := node
  split
  · rename_i hend
    obtain ⟨hend, hinner⟩ := hends.1 hend
    obtain ⟨kind, hrole⟩ := Node.isEnd_iff.1 hend
    rw [reportsAt_functionEnd _ _ _ _ hinner.1 hinner.2 hrole]
    refine unusedReports_dropping ?_ nodeLine
    intro type htype hunused
    exact (mem_unusedIn h).2 ⟨inner, _, after, rfl, hend, hinner, htype, hunused⟩
  · rename_i hend
    by_cases hthrows : node.isThrowing = true ∧ DirectlyInside inner
    · obtain ⟨hthrowing, hdirect⟩ := hthrows
      obtain ⟨construct, rfl⟩ := Node.isThrowing_iff.1 hthrowing
      refine escapeReports_dropping hdirect ?_ nodeLine
      intro t hthrown htries type htype halways
      rw [interception_unusedIn h hdirect hthrown htries htype] at halways
      cases halways
    · exact reportsAt_redeclared before contract _ line inner hthrows fun h => hend (hends.2 h)

/-- **Deleting what is unused tidies a function.** Every function of a closed unit has an end, and
    when the tags are deleted whose types are reported as unused there, the unit is accepted and
    closed as before. That end reports nothing any more, the start of the function is judged by the
    tags that are kept, and every other outcome stays what it was. -/
theorem dropping_unused_tidies (K : Checker) {nodes : List (Node × Nat)} {i line : Nat}
    {contract : Contract} {s : State} (h : K.run .start nodes = (none, s))
    (hclosed : s.scope.isEmpty = true)
    (hstart : nodes[i]? = some (.functionStart contract, line)) :
    (∃ j, endsBody nodes i j = true) ∧
    ∃ t, K.run .start
        (nodes.set i (.functionStart (contract.dropping (K.unusedIn nodes i)), line)) = (none, t) ∧
      t.scope.isEmpty = true ∧
      (K.runThrough .start
          (nodes.set i (.functionStart (contract.dropping (K.unusedIn nodes i)), line))).1
        = (K.runThrough .start nodes).1.mapIdx fun j outcome =>
            if j = i then .ok (K.uselessTags (contract.dropping (K.unusedIn nodes i)) line)
            else if endsBody nodes i j then .ok []
            else outcome := by
  obtain ⟨before, rest, rfl, rfl⟩ := exists_append_cons_of_getElem? hstart
  refine ⟨@exists_endsBody K before rest line (.function contract) s h hclosed, ?_⟩
  have hcallable (types : List ClassName) :
      (contract.dropping types).callable = contract.callable := rfl
  obtain ⟨t, hrun, hempty⟩ := run_redeclared (hcallable _) h hclosed
  rw [set_append_cons]
  refine ⟨t, hrun, hempty, runThrough_redeclared (hcallable _) h ?_ ?_ ?_⟩
  · intro j hj outcome
    have hnot : ¬ endsBody (before ++ (.functionStart contract, line) :: rest) before.length j :=
      fun hends => Nat.lt_asymm hj (lt_of_endsBody hends)
    rw [if_neg (Nat.ne_of_lt hj), if_neg hnot]
  · intro outcome
    exact if_pos rfl
  · rintro inner node after rfl
    rw [if_neg (by omega), reportsAt_dropping h]
    split <;> rfl

/-- A type that is declared twice for nothing, since a try inside catches what would use it, and a
    type that is in use for some of what is thrown. -/
def idleTags : Contract :=
  ⟨.closure, [⟨"LogicException", none⟩, ⟨"RangeException", none⟩, ⟨"\\LogicException", none⟩]⟩

def idleUnit : List (Node × Nat) :=
  [(.functionStart idleTags, 1),
   (.tryStart [⟨[⟨"LogicException"⟩], 5⟩], 2),
   (.throwNew ⟨"DomainException"⟩, 3),
   (.tryEnd, 4),
   (.throwNew ⟨"RuntimeException"⟩, 6),
   (.functionEnd, 7)]

/-- Both tags for the type are deleted, and what is missing in the function is reported as before.
    -/
theorem dropping_unused_tidies_idleUnit :
    small.unusedIn idleUnit 0 = [⟨"LogicException"⟩] ∧
    (∃ j, endsBody idleUnit 0 j = true) ∧
    ∃ t, small.run .start (idleUnit.set 0
          (.functionStart (idleTags.dropping (small.unusedIn idleUnit 0)), 1)) = (none, t) ∧
      t.scope.isEmpty = true ∧
      (small.runThrough .start (idleUnit.set 0
          (.functionStart (idleTags.dropping (small.unusedIn idleUnit 0)), 1))).1.tail.map
            Outcome.diagnostics
        = [[], [], [], [small.report 6 .missingThrows [⟨"RuntimeException"⟩]], []] := by
  have hrun : (small.run .start idleUnit).1 = none := by decide +kernel
  have hclosed : (small.run .start idleUnit).2.scope.isEmpty = true := by decide +kernel
  obtain ⟨hend, t, ht, hempty, houtcomes⟩ :=
    @dropping_unused_tidies small idleUnit 0 1 idleTags _ (run_eq_of_fst hrun) hclosed rfl
  refine ⟨by decide +kernel, hend, t, ht, hempty, ?_⟩
  rw [houtcomes]
  decide +kernel

end Checker

end ExceptionFlow
