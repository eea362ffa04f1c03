import ExceptionFlow.Proofs.Recording
import ExceptionFlow.Proofs.Subtyping

set_option autoImplicit false

/-! # Asking whether a type would be caught

`Scope.isCaughtAhead` asks, without throwing anything, whether a try body inside the innermost
function would catch a type. Recording a throw goes along the same frames, but it changes them on
its way and also comes to the function. The two agree (`Scope.isCaughtAhead_iff_record`): a type is
caught ahead exactly if nothing would be left of it even in a scope whose functions declare nothing
(`Scope.undeclaring`). That second scope is needed, since what the function declares hides whether a
type came to it. -/

namespace ExceptionFlow

variable (H : Hierarchy)

/-! ## Scopes in which nothing is declared -/

/-- The frame as it would be if nothing were declared. -/
def Frame.undeclaring : Frame → Frame
  | .tryBody region => .tryBody region
  | .functionBody body => .functionBody { body with declared := ∅ }

/-- The scope as it would be if its functions declared nothing. -/
def Scope.undeclaring (s : Scope) : Scope := ⟨s.frames.map Frame.undeclaring⟩

/-- Where nothing is declared, only a try body accepts a type. -/
theorem accepted_undeclaring (thrown : ClassName) (frames : List Frame) :
    accepted H thrown (frames.map Frame.undeclaring) = Scope.isCaughtAhead H thrown frames := by
  induction frames with
  | nil => rfl
  | cons f rest ih =>
    cases f with
    | tryBody region =>
      rw [List.map_cons, Frame.undeclaring, accepted, ih, Scope.isCaughtAhead]
    | functionBody body => simp [Frame.undeclaring, accepted, Scope.isCaughtAhead,
        FunctionBody.covers]

/-! ## The query and the frames -/

/-- The query goes through the try bodies that a throw is offered to. -/
theorem isCaughtAhead_iff {thrown : ClassName} {frames : List Frame} :
    Scope.isCaughtAhead H thrown frames = true
      ↔ ∃ region ∈ Scope.triesAhead frames, (region.offer H thrown).1 = true := by
  induction frames with
  | nil => simp [Scope.isCaughtAhead, Scope.triesAhead]
  | cons f rest ih =>
    cases f with
    | tryBody region =>
      have htries : Scope.triesAhead (.tryBody region :: rest)
          = region :: Scope.triesAhead rest := rfl
      rw [Scope.isCaughtAhead, Bool.or_eq_true, ih, htries]
      simp [TryRegion.offer_eq]
    | functionBody body =>
      have htries : Scope.triesAhead (.functionBody body :: rest) = [] := rfl
      simp [Scope.isCaughtAhead, htries]

/-- What is accepted is caught ahead or covered by the innermost function. -/
theorem accepted_iff_isCaughtAhead {thrown : ClassName} {frames : List Frame} :
    accepted H thrown frames = true
      ↔ Scope.isCaughtAhead H thrown frames = true ∨
        ∃ body ∈ Scope.functionAround? frames, ∃ d ∈ body.declared,
          H.interception d thrown = .always := by
  rw [accepted_iff, isCaughtAhead_iff]
  simp only [TryRegion.offer_eq]

/-! ## The query and the throws before and after it -/

/-- A type that is caught ahead does not come to any function. -/
theorem bodies_pass {thrown : ClassName} {frames : List Frame}
    (h : Scope.isCaughtAhead H thrown frames = true) :
    ((frameRelay H).pass thrown frames).map Frame.body? = frames.map Frame.body? := by
  induction frames with
  | nil => rfl
  | cons f rest ih =>
    cases f with
    | functionBody body => cases h
    | tryBody region =>
      rw [Relay.pass, List.map_cons, List.map_cons]
      congr 1
      split
      · rfl
      · rename_i hstops
        rw [Scope.isCaughtAhead, Bool.or_eq_true] at h
        exact ih (h.resolve_left hstops)

/-- Throws count at the entries and mark what is declared, and the query looks at neither. -/
theorem isCaughtAhead_pass (thrown other : ClassName) (frames : List Frame) :
    Scope.isCaughtAhead H thrown ((frameRelay H).pass other frames)
      = Scope.isCaughtAhead H thrown frames := by
  induction frames with
  | nil => rfl
  | cons f rest ih =>
    cases f with
    | functionBody body => rfl
    | tryBody region =>
      have hcatches : (region.offer H other).2.catches H thrown = region.catches H thrown :=
        (frameRelay H).stops_note thrown other (.tryBody region)
      have hrest : Scope.isCaughtAhead H thrown
          (if (frameRelay H).stops other (.tryBody region) then rest
            else (frameRelay H).pass other rest) = Scope.isCaughtAhead H thrown rest := by
        split
        · rfl
        · exact ih
      show ((region.offer H other).2.catches H thrown || _) = (region.catches H thrown || _)
      rw [hcatches, hrest]

theorem isCaughtAhead_passAll (thrown : ClassName) (types : List ClassName)
    (frames : List Frame) :
    Scope.isCaughtAhead H thrown ((frameRelay H).passAll types frames)
      = Scope.isCaughtAhead H thrown frames := by
  induction types generalizing frames with
  | nil => rfl
  | cons other rest ih => exact (ih _).trans (isCaughtAhead_pass H thrown other frames)

namespace Scope

/-- **The query agrees with recording a throw.** In any scope, a type is caught ahead exactly if one
    of the try bodies inside the innermost function catches it when it is thrown; that is, if
    nothing is left of it, and nothing would be left if the functions declared nothing. Then the
    throw changes no function. Otherwise the type is left exactly if no function is open or the
    innermost one declares nothing that covers it. Throws beforehand, however many, do not change
    the answer. -/
theorem isCaughtAhead_iff_record (s : Scope) (thrown : ClassName) :
    (isCaughtAhead H thrown s.frames = true
      ↔ ∃ region ∈ triesAhead s.frames, (region.offer H thrown).1 = true) ∧
    (isCaughtAhead H thrown s.frames = true
      ↔ (s.record H (.single thrown)).1.undeclared.isEmpty = true ∧
        (s.undeclaring.record H (.single thrown)).1.undeclared.isEmpty = true) ∧
    (isCaughtAhead H thrown s.frames = true →
      (s.record H (.single thrown)).2.frames.map Frame.body? = s.frames.map Frame.body?) ∧
    (isCaughtAhead H thrown s.frames = false →
      (thrown ∈ (s.record H (.single thrown)).1.undeclared
        ↔ functionAround? s.frames = none ∨
          ∃ body, functionAround? s.frames = some body ∧
            ∀ d ∈ body.declared, H.interception d thrown ≠ .always)) ∧
    ∀ throws : List TypeSet,
      isCaughtAhead H thrown (s.recordEach H throws).2.frames
        = isCaughtAhead H thrown s.frames := by
  have hundeclaring : (s.undeclaring.record H (.single thrown)).1.undeclared.isEmpty = true
      ↔ isCaughtAhead H thrown s.frames = true := by
    rw [undeclared_isEmpty_iff]
    simp [undeclaring, accepted_undeclaring]
  refine ⟨isCaughtAhead_iff H, ?_, ?_, ?_, ?_⟩
  · rw [hundeclaring, undeclared_isEmpty_iff]
    refine ⟨fun hahead => ⟨?_, hahead⟩, And.right⟩
    simp [accepted_iff_isCaughtAhead, hahead]
  · intro hahead
    rw [record_eq]
    exact bodies_pass H hahead
  · intro hnot
    rw [record_eq, TypeSet.mem_filter, Bool.not_eq_true', ← Bool.not_eq_true,
      accepted_iff_isCaughtAhead]
    cases functionAround? s.frames with
    | none => simp [hnot]
    | some body => simp [hnot]
  · intro throws
    rw [recordEach_eq]
    exact isCaughtAhead_passAll H thrown _ s.frames

/-- A try in a function that declares one class of the circle, and around the function another
    try. -/
def guardedScope : Scope :=
  ⟨[.tryBody (.ofClauses [⟨[⟨"Timeout"⟩], 3⟩]),
    .functionBody (.enter .closure (.single ⟨"Failure"⟩) false),
    .tryBody (.ofClauses [⟨[⟨"Overflow"⟩], 7⟩])]⟩

/-- The inner try catches the first type before the function that declares a supertype of it. The
    second comes to the function and is declared there. The third comes to it too and is left over,
    although the try around the function would catch it. -/
theorem isCaughtAhead_iff_record_guarded :
    isCaughtAhead Registry.circle.hierarchy ⟨"Timeout"⟩ guardedScope.frames = true ∧
    (guardedScope.record Registry.circle.hierarchy (.single ⟨"Timeout"⟩)).2.frames.map Frame.body?
      = guardedScope.frames.map Frame.body? ∧
    isCaughtAhead Registry.circle.hierarchy ⟨"Fault"⟩ guardedScope.frames = false ∧
    ⟨"Fault"⟩ ∉ (guardedScope.record Registry.circle.hierarchy (.single ⟨"Fault"⟩)).1.undeclared ∧
    isCaughtAhead Registry.circle.hierarchy ⟨"Overflow"⟩ guardedScope.frames = false ∧
    ⟨"Overflow"⟩ ∈
      (guardedScope.record Registry.circle.hierarchy (.single ⟨"Overflow"⟩)).1.undeclared ∧
    isCaughtAhead Registry.circle.hierarchy ⟨"Timeout"⟩
        (guardedScope.recordEach Registry.circle.hierarchy
          [.single ⟨"Timeout"⟩, .ofList [⟨"Fault"⟩, ⟨"Timeout"⟩]]).2.frames = true := by
  have hahead : isCaughtAhead Registry.circle.hierarchy ⟨"Timeout"⟩ guardedScope.frames = true := by
    decide +kernel
  have hfault : isCaughtAhead Registry.circle.hierarchy ⟨"Fault"⟩ guardedScope.frames = false := by
    decide +kernel
  have hoverflow :
      isCaughtAhead Registry.circle.hierarchy ⟨"Overflow"⟩ guardedScope.frames = false := by
    decide +kernel
  obtain ⟨-, -, hbodies, -, hthrows⟩ :=
    isCaughtAhead_iff_record Registry.circle.hierarchy guardedScope ⟨"Timeout"⟩
  obtain ⟨-, -, -, hdeclared, -⟩ :=
    isCaughtAhead_iff_record Registry.circle.hierarchy guardedScope ⟨"Fault"⟩
  obtain ⟨-, -, -, hleft, -⟩ :=
    isCaughtAhead_iff_record Registry.circle.hierarchy guardedScope ⟨"Overflow"⟩
  refine ⟨hahead, hbodies hahead, hfault, ?_, hoverflow, ?_, (hthrows _).trans hahead⟩
  · rw [hdeclared hfault]
    rintro (hnone | ⟨body, hbody, hnever⟩)
    · cases hnone
    · obtain rfl := Option.some.inj hbody
      exact hnever ⟨"Failure"⟩ (TypeSet.mem_single.2 rfl) (by decide +kernel)
  · rw [hleft hoverflow]
    refine .inr ⟨_, rfl, ?_⟩
    intro d hd
    obtain rfl := TypeSet.mem_single.1 hd
    decide +kernel

end Scope

end ExceptionFlow
