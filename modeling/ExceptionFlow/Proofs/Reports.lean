import ExceptionFlow.Proofs.Tracking

set_option autoImplicit false

/-! # What is reported, and why

Three kinds of reports depend on what was thrown before: types that escape at a throwing construct,
catch entries for which nothing was thrown, and declared types without use. For each of them this
module states the reason in terms of the nodes alone, as a decidable predicate, and proves that the
checker reports exactly the types for which the reason holds, in written order.

The predicates speak about the text: about the function and the try bodies around a node, and about
the constructs that stand directly in a body. That the scope, which is changed at every node, agrees
with them is `Checker.run_frames`. -/

namespace ExceptionFlow.Checker

variable (K : Checker)

/-! ## Types that escape -/

/-- A checked type that no try body around the next node catches, up to the function around it, and
    that no tag of that function covers. -/
def Escapes (nodes : List (Node × Nat)) (thrown : ClassName) : Prop :=
  K.policy.isChecked K.hierarchy thrown = true ∧
  (∀ clauses ∈ enclosingTries nodes, ¬ Catches K.hierarchy clauses thrown) ∧
  ∀ contract ∈ enclosingFunction? nodes, ∀ tag ∈ contract.tags,
    K.hierarchy.interception tag.type thrown ≠ .always

instance (nodes : List (Node × Nat)) (thrown : ClassName) : Decidable (K.Escapes nodes thrown) :=
  inferInstanceAs (Decidable (_ ∧ _ ∧ _))

/-- The reports for the types that escape: in a function they are missing in its tags, unless it is
    exempt; outside of functions they are reported on demand. -/
def escapeReports (nodes : List (Node × Nat)) (construct : Construct) (line : Nat) :
    List Diagnostic :=
  let escaping := (K.throwModel.infer construct).toList.filter fun t => K.Escapes nodes t
  match enclosingFunction? nodes with
  | some contract =>
    if K.isExempt contract.callable then []
    else escaping.map fun t => K.report line .missingThrows [t]
  | none =>
    if K.options.reportCheckedThrowsInGlobalScope then
      escaping.map fun t => K.report line .throwInGlobalScope [t]
    else []

variable {K}

/-- The frame of an open function: what it declares is what its tags say, and in use are those of
    its types that match something leaving the body. -/
theorem frameOf_function (contract : Contract) (inner : List (Node × Nat)) :
    ∃ body, K.frameOf ⟨.function contract, inner⟩ = .functionBody body ∧
      body.callable = contract.callable ∧ body.declared = contract.declared ∧
      body.exempt = K.isExempt contract.callable ∧
      ∀ type, type ∈ body.used ↔ type ∈ contract.declared ∧
        ∃ t, K.Leaves inner t ∧ K.hierarchy.interception type t ≠ .never := by
  obtain ⟨used, heq, hmem⟩ :=
    noteAll_functionBody K.hierarchy (K.leaving inner) (K.bodyOf contract)
  refine ⟨_, heq, rfl, rfl, rfl, ?_⟩
  intro type
  rw [hmem type]
  simp only [mem_leaving]
  exact ⟨fun h => h.resolve_left List.not_mem_nil, Or.inr⟩

theorem frameOf_tryBody (clauses : List CatchClause) (inner : List (Node × Nat)) :
    K.frameOf ⟨.tryBody clauses, inner⟩
      = .tryBody
          ⟨(clauseRelay K.hierarchy).passAll (K.leaving inner) (K.regionOf clauses).clauses⟩ :=
  noteAll_tryBody K.hierarchy (K.leaving inner) (K.regionOf clauses)

theorem covers_eq (thrown : ClassName) {body : FunctionBody} {contract : Contract}
    (h : body.declared = contract.declared) :
    body.covers K.hierarchy thrown
      = contract.tags.any fun tag => K.hierarchy.interception tag.type thrown == .always := by
  rw [Bool.eq_iff_iff, FunctionBody.covers_iff, List.any_eq_true, h]
  simp only [Contract.declared, TypeSet.mem_ofList, List.mem_map, beq_iff_eq]
  constructor
  · rintro ⟨type, ⟨tag, htag, rfl⟩, halways⟩
    exact ⟨tag, htag, halways⟩
  · rintro ⟨tag, htag, halways⟩
    exact ⟨tag.type, ⟨tag, htag, rfl⟩, halways⟩

/-- What is accepted is what the innermost try bodies catch or the tags of the innermost function
    cover. -/
theorem accepted_frameOf (thrown : ClassName) (bodies : List OpenBody) :
    accepted K.hierarchy thrown (bodies.map K.frameOf) = true
      ↔ (∃ clauses ∈ innermostTries (bodies.map (·.start)), Catches K.hierarchy clauses thrown) ∨
        ∃ contract ∈ innermostFunction? (bodies.map (·.start)), ∃ tag ∈ contract.tags,
          K.hierarchy.interception tag.type thrown = .always := by
  induction bodies with
  | nil => simp [accepted, innermostTries, innermostFunction?]
  | cons b rest ih =>
    obtain ⟨start, inner⟩ := b
    cases start with
    | function contract =>
      obtain ⟨body, heq, -, hdeclared, -⟩ := frameOf_function (K := K) contract inner
      rw [List.map_cons, heq, accepted, covers_eq thrown hdeclared]
      simp [innermostTries, innermostFunction?]
    | tryBody clauses =>
      -- a region catches what its clauses catch, whatever it has counted since it was entered
      have hcatches := frameOf_stops (K := K) thrown ⟨.tryBody clauses, inner⟩
      rw [frameOf_tryBody, Opening.passes, Bool.not_not] at hcatches
      rw [List.map_cons, frameOf_tryBody, accepted, Bool.or_eq_true, ih]
      rw [show TryRegion.catches K.hierarchy thrown _ = _ from hcatches]
      simp [innermostTries, innermostFunction?, or_assoc]

theorem boundary_frameOf (bodies : List OpenBody) :
    Scope.boundary (bodies.map K.frameOf)
      = match innermostFunction? (bodies.map (·.start)) with
        | some contract => .function (K.isExempt contract.callable)
        | none => .global := by
  induction bodies with
  | nil => rfl
  | cons b rest ih =>
    obtain ⟨start, inner⟩ := b
    cases start with
    | function contract =>
      obtain ⟨body, heq, -, -, hexempt, -⟩ := frameOf_function (K := K) contract inner
      rw [List.map_cons, heq, Scope.boundary, hexempt]
      rfl
    | tryBody clauses =>
      rw [List.map_cons, frameOf_tryBody]
      exact ih

/-- The types that escape are the checked ones among those that no frame accepts. -/
theorem filter_escapes (nodes : List (Node × Nat)) (types : List ClassName) :
    (types.filter fun t => !accepted K.hierarchy t ((openBodies nodes).map K.frameOf)).filter
        (K.policy.isChecked K.hierarchy)
      = types.filter fun t => K.Escapes nodes t := by
  rw [List.filter_filter]
  refine List.filter_congr ?_
  intro t _
  have haccepted := accepted_frameOf (K := K) t (openBodies nodes)
  rw [Bool.eq_iff_iff, Bool.and_eq_true, Bool.not_eq_true', ← Bool.not_eq_true, haccepted,
    decide_eq_true_iff, not_or]
  simp only [not_exists, not_and]
  rfl

theorem throwReports_frameOf (nodes : List (Node × Nat)) (construct : Construct) (line : Nat) :
    K.throwReports line ((openBodies nodes).map K.frameOf) construct
      = K.escapeReports nodes construct line := by
  simp only [throwReports, escapes, CheckedPolicy.filterChecked, TypeSet.toList_filter,
    filter_escapes, boundary_frameOf]
  show _ = match innermostFunction? (openings nodes) with | some contract => _ | none => _
  rw [openings]
  cases innermostFunction? ((openBodies nodes).map (·.start)) with
  | none => rfl
  | some contract => cases hexempt : K.isExempt contract.callable <;> simp [hexempt]

/-- **A throwing construct reports exactly the types that escape.** They come in the order in which
    they are inferred, whatever was thrown before. -/
theorem step_throwing_reports_escapes (K : Checker) {nodes : List (Node × Nat)} {s : State}
    (h : K.run .start nodes = (none, s)) (construct : Construct) (line : Nat) :
    ∃ scope, K.step s (.throwing construct) line
      = (.ok (K.escapeReports nodes construct line),
          ⟨scope, s.diagnostics ++ K.escapeReports nodes construct line⟩) := by
  have hreports : K.throwReports line s.scope.frames construct
      = K.escapeReports nodes construct line := by
    rw [run_frames h]
    exact throwReports_frameOf nodes construct line
  rw [← hreports]
  exact ⟨_, step_of_accepts .throws⟩

/-- A function that declares a type, and in it a try body. -/
def tryInFunction : List (Node × Nat) :=
  [(.functionStart ⟨.closure, [⟨"LogicException", none⟩]⟩, 1),
   (.tryStart [⟨[⟨"RangeException"⟩], 4⟩], 2)]

def throwOfThree : Construct :=
  .throw (.union
    [.object ⟨"RangeException"⟩, .object ⟨"DomainException"⟩, .object ⟨"RuntimeException"⟩])

/-- Of three types one is caught, one is covered by a tag, and one escapes. -/
theorem step_throwing_reports_one_of_three :
    (small.run .start tryInFunction).1 = none ∧
    (small.step (small.run .start tryInFunction).2 (.throwing throwOfThree) 3).1
      = .ok [small.report 3 .missingThrows [⟨"RuntimeException"⟩]] := by
  have hrun : (small.run .start tryInFunction).1 = none := by decide +kernel
  have hreports : small.escapeReports tryInFunction throwOfThree 3
      = [small.report 3 .missingThrows [⟨"RuntimeException"⟩]] := by
    decide +kernel
  obtain ⟨scope, hstep⟩ :=
    step_throwing_reports_escapes small (run_eq_of_fst hrun) throwOfThree 3
  rw [hstep, hreports]
  exact ⟨hrun, rfl⟩

/-! ## Catch entries for which nothing is thrown -/

variable (K) in
/-- An entry of a try that is there for nothing: its class is known and of interest, no fault of the
    clauses explains it, and nothing that leaves the body may come to it past the clauses before. -/
def NeverThrownIn (clauses : List CatchClause) (body : List (Node × Nat)) (clause entry : Nat)
    (type : ClassName) : Prop :=
  (∃ resolved ∈ K.hierarchy.resolve? type,
    K.policy.isChecked K.hierarchy resolved = true ∨
      K.options.reportUnusedCatchesOfUncheckedExceptions = true) ∧
  (∀ f ∈ CatchFinding.ofClauses K.hierarchy clauses, ¬ (f.clause = clause ∧ f.entry = entry)) ∧
  ¬ ∃ t, K.Leaves body t ∧ K.hierarchy.interception type t ≠ .never ∧
    ¬ Catches K.hierarchy (clauses.take clause) t

instance (clauses : List CatchClause) (body : List (Node × Nat)) (clause entry : Nat)
    (type : ClassName) : Decidable (K.NeverThrownIn clauses body clause entry type) :=
  decidable_of_iff
    ((∃ resolved ∈ K.hierarchy.resolve? type,
      K.policy.isChecked K.hierarchy resolved = true ∨
        K.options.reportUnusedCatchesOfUncheckedExceptions = true) ∧
    (∀ f ∈ CatchFinding.ofClauses K.hierarchy clauses, ¬ (f.clause = clause ∧ f.entry = entry)) ∧
    ¬ ∃ t ∈ K.leaving body, K.hierarchy.interception type t ≠ .never ∧
      ¬ Catches K.hierarchy (clauses.take clause) t)
    (by simp only [mem_leaving, NeverThrownIn])

variable (K) in
/-- The reports for such entries, each at the line of its clause. -/
def neverThrownReports (clauses : List CatchClause) (body : List (Node × Nat)) :
    List Diagnostic :=
  clauses.zipIdx.flatMap fun c =>
    (c.1.types.zipIdx.filter fun e => K.NeverThrownIn clauses body c.2 e.2 e.1).map fun e =>
      K.report c.1.line .neverThrown [e.1]

/-- Of types that come to a try, those that an entry of a clause observes: no clause before catches
    them, and the entry may intercept them. -/
def observedTypes (H : Hierarchy) (types : List ClassName) (clauses : List CatchClause)
    (clause : Nat) (type : ClassName) : List ClassName :=
  types.filter fun t => ¬ Catches H (clauses.take clause) t ∧ H.interception type t ≠ .never

theorem mem_observedTypes {H : Hierarchy} {types : List ClassName} {clauses : List CatchClause}
    {clause : Nat} {type t : ClassName} :
    t ∈ observedTypes H types clauses clause type
      ↔ t ∈ types ∧ ¬ Catches H (clauses.take clause) t ∧ H.interception type t ≠ .never := by
  rw [observedTypes, List.mem_filter, decide_eq_true_iff]

theorem length_observedTypes {H : Hierarchy} {types : List ClassName} {clauses : List CatchClause}
    {clause : Nat} {type : ClassName} :
    (observedTypes H types clauses clause type).length
      = (types.filter fun t => !decide (Catches H (clauses.take clause) t)).countP fun t =>
          H.interception type t != .never := by
  rw [observedTypes, List.countP_filter, List.countP_eq_length_filter]
  refine congrArg List.length (List.filter_congr ?_)
  intro t _
  rw [Bool.eq_iff_iff]
  simp [and_comm]

variable (K) in
/-- No entry of a try observes so much of what leaves the body that its counter runs over. -/
def CountersHold (clauses : List CatchClause) (body : List (Node × Nat)) : Prop :=
  ∀ k c, clauses[k]? = some c → ∀ type ∈ c.types,
    (observedTypes K.hierarchy (K.leaving body) clauses k type).length < UInt32.size

theorem countersHold_of_length_leaving {clauses : List CatchClause} {body : List (Node × Nat)}
    (h : (K.leaving body).length < UInt32.size) : K.CountersHold clauses body :=
  fun _ _ _ _ _ => Nat.lt_of_le_of_lt (List.length_filter_le _ _) h

/-- The entry at a position after the types have been offered to the try. -/
def observedEntry (H : Hierarchy) (types : List ClassName) (marked : Nat → Nat → Bool)
    (clauses : List CatchClause) (clause entry : Nat) (type : ClassName) : CatchEntry :=
  ⟨type, .ofNat (observedTypes H types clauses clause type).length, marked clause entry⟩

/-- What the clauses of a try have counted after some types came to them: each has counted those
    that no clause before it catches. -/
theorem passAll_shade (H : Hierarchy) (types : List ClassName) (marked : Nat → Nat → Bool)
    (clauses : List CatchClause) :
    (clauseRelay H).passAll types (TryRegion.shade marked clauses).clauses
      = clauses.zipIdx.map fun c =>
          ⟨c.1.line, c.1.types.zipIdx.map fun e =>
            observedEntry H types marked clauses c.2 e.2 e.1⟩ := by
  have hpast (k : Nat) :
      (types.filter fun t =>
        !((TryRegion.shade marked clauses).clauses.take k).any ((clauseRelay H).stops t))
        = types.filter fun t => !decide (Catches H (clauses.take k) t) := by
    refine List.filter_congr ?_
    intro t _
    rw [TryRegion.take_clauses_shade, ← TryRegion.catches_shade H t marked]
    rfl
  rw [Relay.passAll_eq_mapIdx]
  simp only [hpast, noteAll_clause]
  apply List.ext_getElem?
  intro k
  rw [List.getElem?_mapIdx, TryRegion.shade, List.getElem?_map, List.getElem?_map,
    List.getElem?_zipIdx]
  cases clauses[k]? with
  | none => rfl
  | some c =>
    simp only [Option.map_some, List.map_map, Nat.zero_add]
    congr 2
    refine List.map_congr_left ?_
    intro e _
    simp [CatchEntry.offerAll, CatchEntry.count, observedEntry, length_observedTypes]

/-- The region of a try body when it ends. -/
theorem frameOf_tryBody_eq (clauses : List CatchClause) (inner : List (Node × Nat)) :
    K.frameOf ⟨.tryBody clauses, inner⟩
      = .tryBody ⟨clauses.zipIdx.map fun c =>
          ⟨c.1.line, c.1.types.zipIdx.map fun e =>
            observedEntry K.hierarchy (K.leaving inner)
              (fun k i => (CatchFinding.ofClauses K.hierarchy clauses).any (CatchFinding.isAt k i))
              clauses c.2 e.2 e.1⟩⟩ := by
  rw [frameOf_tryBody, regionOf_eq_shade, passAll_shade]

/-- The counter of an entry is zero if the entry observes nothing, as long as the counter holds. -/
theorem counter_observedEntry_eq_zero_iff {H : Hierarchy} {types : List ClassName}
    {marked : Nat → Nat → Bool} {clauses : List CatchClause} {clause entry : Nat}
    {type : ClassName}
    (hholds : (observedTypes H types clauses clause type).length < UInt32.size) :
    (observedEntry H types marked clauses clause entry type).counter = 0
      ↔ observedTypes H types clauses clause type = [] := by
  rw [CatchEntry.counter_eq_zero_iff, CatchEntry.observed, observedEntry,
    UInt32.toNat_ofNat_of_lt' hholds, List.length_eq_zero_iff]

/-- An entry is reported at the end of the body exactly if it is there for nothing. -/
theorem isNeverThrown_observedEntry (clauses : List CatchClause) (body : List (Node × Nat))
    (clause entry : Nat) (type : ClassName)
    (hholds : (observedTypes K.hierarchy (K.leaving body) clauses clause type).length
      < UInt32.size) :
    K.isNeverThrown (observedEntry K.hierarchy (K.leaving body)
        (fun k i => (CatchFinding.ofClauses K.hierarchy clauses).any (CatchFinding.isAt k i))
        clauses clause entry type)
      = decide (K.NeverThrownIn clauses body clause entry type) := by
  have hunseen : observedTypes K.hierarchy (K.leaving body) clauses clause type = []
      ↔ ¬ ∃ t, K.Leaves body t ∧ K.hierarchy.interception type t ≠ .never ∧
          ¬ Catches K.hierarchy (clauses.take clause) t := by
    simp only [List.eq_nil_iff_forall_not_mem, mem_observedTypes, mem_leaving, not_exists, and_comm]
  have hunmarked : (!(CatchFinding.ofClauses K.hierarchy clauses).any
        (CatchFinding.isAt clause entry)) = true
      ↔ ∀ f ∈ CatchFinding.ofClauses K.hierarchy clauses,
          ¬ (f.clause = clause ∧ f.entry = entry) := by
    simp [CatchFinding.isAt]
  have hknown : ((K.hierarchy.resolve? type).any fun resolved =>
        K.options.reportUnusedCatchesOfUncheckedExceptions ||
          K.policy.isChecked K.hierarchy resolved) = true
      ↔ ∃ resolved ∈ K.hierarchy.resolve? type,
          K.policy.isChecked K.hierarchy resolved = true ∨
            K.options.reportUnusedCatchesOfUncheckedExceptions = true := by
    simp only [Option.any_eq_true, Bool.or_eq_true, Option.mem_def, or_comm]
  rw [Bool.eq_iff_iff, decide_eq_true_iff, isNeverThrown, Bool.and_eq_true, Bool.and_eq_true,
    beq_iff_eq, counter_observedEntry_eq_zero_iff hholds, hunseen]
  constructor
  · rintro ⟨⟨hnothing, hmarked⟩, hresolved⟩
    exact ⟨hknown.1 hresolved, hunmarked.1 hmarked, hnothing⟩
  · rintro ⟨hresolved, hmarked, hnothing⟩
    exact ⟨⟨hnothing, hunmarked.2 hmarked⟩, hknown.2 hresolved⟩

theorem neverThrown_frameOf {clauses : List CatchClause} {inner : List (Node × Nat)}
    (hholds : K.CountersHold clauses inner) (line : Nat) :
    K.endReports line (K.frameOf ⟨.tryBody clauses, inner⟩)
      = K.neverThrownReports clauses inner := by
  rw [frameOf_tryBody_eq, endReports, neverThrown, neverThrownReports, List.flatMap_map]
  refine List.flatMap_congr ?_
  rintro ⟨c, k⟩ hc
  rw [List.filter_map, List.map_map]
  refine congrArg (List.map _) (List.filter_congr ?_)
  rintro ⟨type, i⟩ htype
  exact isNeverThrown_observedEntry clauses inner k i type
    (hholds k c (List.mem_zipIdx_iff_getElem?.1 hc) type (List.fst_mem_of_mem_zipIdx htype))

/-- The end of a body reports what its frame has come to show. -/
theorem step_endNode (K : Checker) {before body : List (Node × Nat)} (start : Opening)
    {startLine : Nat} {s : State} (hbody : Balanced body)
    (h : K.run .start (before ++ (start.node, startLine) :: body) = (none, s)) (line : Nat) :
    ∃ scope, K.step s start.kind.endNode line
      = (.ok (K.endReports line (K.frameOf ⟨start, body⟩)),
          ⟨scope, s.diagnostics ++ K.endReports line (K.frameOf ⟨start, body⟩)⟩) := by
  obtain ⟨outer, hframes⟩ : ∃ outer, s.scope.frames = K.frameOf ⟨start, body⟩ :: outer := by
    rw [run_frames h, hbody.openBodies_behind]
    exact ⟨_, rfl⟩
  have haccepts : K.Accepts line s.scope.frames start.kind.endNode.role
      (K.endReports line (K.frameOf ⟨start, body⟩)) outer := by
    rw [hframes, FrameKind.role_endNode]
    exact .closes (frameOf_kind ⟨start, body⟩)
  exact ⟨_, step_of_accepts haccepts⟩

/-- **The end of a try body reports exactly the entries that are there for nothing.** They come
    clause by clause and, within a clause, as they are written. No entry may be observed so often
    that its counter runs over. -/
theorem step_tryEnd_reports_neverThrown (K : Checker) {before body : List (Node × Nat)}
    {clauses : List CatchClause} {startLine : Nat} {s : State} (hbody : Balanced body)
    (h : K.run .start (before ++ (.tryStart clauses, startLine) :: body) = (none, s))
    (hholds : K.CountersHold clauses body) (line : Nat) :
    ∃ scope, K.step s .tryEnd line
      = (.ok (K.neverThrownReports clauses body),
          ⟨scope, s.diagnostics ++ K.neverThrownReports clauses body⟩) := by
  rw [← neverThrown_frameOf hholds line]
  exact step_endNode K (.tryBody clauses) hbody h line

def twoClauses : List CatchClause :=
  [⟨[⟨"RuntimeException"⟩], 7⟩, ⟨[⟨"LogicException"⟩], 8⟩]

theorem countersHold_partlyCaught : small.CountersHold twoClauses partlyCaught :=
  countersHold_of_length_leaving (by decide +kernel)

/-- What an inner try catches does not come to the clauses of the outer one. -/
theorem step_tryEnd_reports_caught_inside :
    (small.run .start ([] ++ (.tryStart twoClauses, 1) :: partlyCaught)).1 = none ∧
    small.CountersHold twoClauses partlyCaught ∧
    (small.step (small.run .start ([] ++ (.tryStart twoClauses, 1) :: partlyCaught)).2 .tryEnd 6).1
      = .ok [small.report 7 .neverThrown [⟨"RuntimeException"⟩]] := by
  have hrun : (small.run .start ([] ++ (.tryStart twoClauses, 1) :: partlyCaught)).1 = none := by
    decide +kernel
  have hreports : small.neverThrownReports twoClauses partlyCaught
      = [small.report 7 .neverThrown [⟨"RuntimeException"⟩]] := by
    decide +kernel
  obtain ⟨scope, hstep⟩ :=
    step_tryEnd_reports_neverThrown small balanced_partlyCaught (run_eq_of_fst hrun)
      countersHold_partlyCaught 6
  rw [hstep, hreports]
  exact ⟨hrun, countersHold_partlyCaught, rfl⟩

/-! ## Declared types without use -/

variable (K) in
/-- A method that some strict supertype of its class declares as an abstract one or in an interface.
    -/
def OverridesAbstract : Callable → Prop
  | .method owner name =>
    ∃ a ∈ K.hierarchy.ancestors owner, ∃ d ∈ K.hierarchy.find? a, ∃ m ∈ d.ownMethod? name,
      m.isAbstract = true ∨ d.isInterface = true
  | .function _ => False
  | .closure => False

instance : (callable : Callable) → Decidable (K.OverridesAbstract callable)
  | .method owner name =>
    inferInstanceAs (Decidable (∃ a ∈ K.hierarchy.ancestors owner, ∃ d ∈ K.hierarchy.find? a,
      ∃ m ∈ d.ownMethod? name, m.isAbstract = true ∨ d.isInterface = true))
  | .function _ => inferInstanceAs (Decidable False)
  | .closure => inferInstanceAs (Decidable False)

variable (K) in
/-- A type that a function declares for nothing. It is a matter of the function, of its body and of
    this type; what else the function declares does not enter. -/
def UnusedIn (callable : Callable) (body : List (Node × Nat)) (declared : ClassName) : Prop :=
  K.isExempt callable = false ∧
  ¬ (K.options.reportUnusedCheckedThrowsInSubtypes = false ∧ K.OverridesAbstract callable) ∧
  K.policy.isChecked K.hierarchy declared = true ∧
  (∀ type ∈ K.ownDefaults callable, K.hierarchy.isSameClass declared type = false) ∧
  ¬ ∃ t, K.Leaves body t ∧ K.hierarchy.interception declared t ≠ .never

instance (callable : Callable) (body : List (Node × Nat)) (declared : ClassName) :
    Decidable (K.UnusedIn callable body declared) :=
  decidable_of_iff
    (K.isExempt callable = false ∧
    ¬ (K.options.reportUnusedCheckedThrowsInSubtypes = false ∧ K.OverridesAbstract callable) ∧
    K.policy.isChecked K.hierarchy declared = true ∧
    (∀ type ∈ (K.ownDefaults callable).toList,
      K.hierarchy.isSameClass declared type = false) ∧
    ¬ ∃ t ∈ K.leaving body, K.hierarchy.interception declared t ≠ .never)
    (by simp only [mem_leaving, UnusedIn, TypeSet.mem_def])

variable (K) in
/-- The reports for such types, each once, where its first tag stands. -/
def unusedReports (contract : Contract) (body : List (Node × Nat)) (line : Nat) :
    List Diagnostic :=
  ((contract.tags.map ThrowsTag.type).eraseDups.filter fun type =>
    K.UnusedIn contract.callable body type).map fun type => K.report line .unusedThrows [type]

theorem implementsAbstract_iff (owner : ClassName) (method : String) :
    K.implementsAbstract owner method = true ↔ K.OverridesAbstract (.method owner method) := by
  simp only [implementsAbstract, OverridesAbstract, List.any_eq_true, List.mem_filterMap,
    Option.any_eq_true, Bool.or_eq_true, Option.mem_def]
  constructor
  · rintro ⟨d, ⟨a, ha, hd⟩, m, hm, habstract⟩
    exact ⟨a, ha, d, hd, m, hm, habstract⟩
  · rintro ⟨a, ha, d, hd, m, hm, habstract⟩
    exact ⟨d, ⟨a, ha, hd⟩, m, hm, habstract⟩

theorem mayDeclareFreely_iff (callable : Callable) :
    K.mayDeclareFreely callable = true
      ↔ K.options.reportUnusedCheckedThrowsInSubtypes = false ∧ K.OverridesAbstract callable := by
  cases callable with
  | function name => simp [mayDeclareFreely, OverridesAbstract]
  | closure => simp [mayDeclareFreely, OverridesAbstract]
  | method owner name =>
    rw [mayDeclareFreely, Bool.and_eq_true, Bool.not_eq_true', implementsAbstract_iff]

/-- The unused types of the frame of a function that has to account for its tags. -/
theorem toList_unusedTypes {contract : Contract} {inner : List (Node × Nat)} {body : FunctionBody}
    (hdeclared : body.declared = contract.declared) (hcallable : body.callable = contract.callable)
    (hused : ∀ type, type ∈ body.used ↔ type ∈ contract.declared ∧
      ∃ t, K.Leaves inner t ∧ K.hierarchy.interception type t ≠ .never)
    (hexempt : K.isExempt contract.callable = false)
    (hfree : ¬ K.mayDeclareFreely contract.callable = true) :
    (K.unusedTypes body).toList
      = (contract.tags.map ThrowsTag.type).eraseDups.filter fun type =>
          K.UnusedIn contract.callable inner type := by
  rw [unusedTypes, CheckedPolicy.filterChecked, TypeSet.toList_filter, TypeSet.toList_filter,
    TypeSet.difference, TypeSet.toList_filter, hdeclared, hcallable, Contract.declared,
    TypeSet.toList_ofList, List.filter_filter, List.filter_filter]
  refine List.filter_congr ?_
  intro type htype
  have hmem : type ∈ contract.declared := by
    rw [Contract.declared, TypeSet.mem_ofList]
    exact List.mem_eraseDups.1 htype
  have hnotUsed : (!body.used.contains type) = true
      ↔ ¬ ∃ t, K.Leaves inner t ∧ K.hierarchy.interception type t ≠ .never := by
    rw [Bool.not_eq_true', ← Bool.not_eq_true, TypeSet.contains_iff, hused]
    exact not_congr (and_iff_right hmem)
  have hnotOwn : (!(K.ownDefaults contract.callable).toList.any fun d =>
        K.hierarchy.isSameClass type d) = true
      ↔ ∀ d ∈ K.ownDefaults contract.callable, K.hierarchy.isSameClass type d = false := by
    simp [TypeSet.mem_def]
  rw [mayDeclareFreely_iff] at hfree
  rw [Bool.eq_iff_iff, decide_eq_true_iff, Bool.and_eq_true, Bool.and_eq_true, hnotOwn, hnotUsed,
    and_assoc]
  exact ⟨fun h => ⟨hexempt, hfree, h⟩, fun h => h.2.2⟩

theorem unusedThrows_frameOf (contract : Contract) (inner : List (Node × Nat)) (line : Nat) :
    K.endReports line (K.frameOf ⟨.function contract, inner⟩)
      = K.unusedReports contract inner line := by
  obtain ⟨body, heq, hcallable, hdeclared, hexempt, hused⟩ :=
    frameOf_function (K := K) contract inner
  rw [heq, endReports, unusedThrows, hexempt, hcallable, unusedReports]
  by_cases hquiet : (K.isExempt contract.callable || K.mayDeclareFreely contract.callable) = true
  · -- nothing is reported, and no type is unused for the same reason
    rw [if_pos hquiet, List.filter_eq_nil_iff.2]
    · rfl
    · intro type _ hunused
      obtain ⟨hnot, hnotFree, -⟩ := of_decide_eq_true hunused
      rw [hnot, Bool.false_or, mayDeclareFreely_iff] at hquiet
      exact hnotFree hquiet
  · rw [if_neg hquiet]
    rw [Bool.or_eq_true, not_or, Bool.not_eq_true] at hquiet
    rw [toList_unusedTypes hdeclared hcallable hused hquiet.1 hquiet.2]

/-- **The end of a function reports exactly the types that it declares for nothing.** -/
theorem step_functionEnd_reports_unused (K : Checker) {before body : List (Node × Nat)}
    {contract : Contract} {startLine : Nat} {s : State} (hbody : Balanced body)
    (h : K.run .start (before ++ (.functionStart contract, startLine) :: body) = (none, s))
    (line : Nat) :
    ∃ scope, K.step s .functionEnd line
      = (.ok (K.unusedReports contract body line),
          ⟨scope, s.diagnostics ++ K.unusedReports contract body line⟩) := by
  rw [← unusedThrows_frameOf contract body line]
  exact step_endNode K (.function contract) hbody h line

def twoTags : Contract :=
  ⟨.closure, [⟨"LogicException", none⟩, ⟨"RuntimeException", none⟩]⟩

/-- A tag is not used by what is caught inside the function, whatever uses the other tag. -/
theorem step_functionEnd_reports_caught_inside :
    (small.run .start ([] ++ (.functionStart twoTags, 1) :: partlyCaught)).1 = none ∧
    (small.step (small.run .start ([] ++ (.functionStart twoTags, 1) :: partlyCaught)).2
        .functionEnd 6).1
      = .ok [small.report 6 .unusedThrows [⟨"RuntimeException"⟩]] := by
  have hrun : (small.run .start ([] ++ (.functionStart twoTags, 1) :: partlyCaught)).1 = none := by
    decide +kernel
  have hreports : small.unusedReports twoTags partlyCaught 6
      = [small.report 6 .unusedThrows [⟨"RuntimeException"⟩]] := by
    decide +kernel
  obtain ⟨scope, hstep⟩ :=
    step_functionEnd_reports_unused small balanced_partlyCaught (run_eq_of_fst hrun) 6
  rw [hstep, hreports]
  exact ⟨hrun, rfl⟩

end ExceptionFlow.Checker
