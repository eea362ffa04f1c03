import ExceptionFlow.Proofs.Propagation
import ExceptionFlow.Registry.Standard

set_option autoImplicit false

/-! # Recording a throw in closed form

Recording the types of a throw sends them outwards one after the other, and everything they pass
changes on the way. The result can be said without any order of events. A type reaches a frame if
nothing inside it stops the type (`Reaches`), and every frame ends up as if exactly the types that
reach it had been counted there (`Frame.counting`). The types that are left over, and where they
come to, are read off the tries up to the innermost function and that function.

`Scope.record_closed_form` is the whole statement. It holds of any scope, also of one that no unit
leads to, and whatever its counters show: they count modulo 2 ^ 32, and show the number itself as
long as that is below. -/

namespace ExceptionFlow

variable (H : Hierarchy)

/-! ## What reaches a frame -/

/-- A thrown type gets past the frames: they are try bodies, and none of them catches it. -/
def Reaches (thrown : ClassName) (inside : List Frame) : Prop :=
  ∀ f ∈ inside, ∃ region, f = .tryBody region ∧ region.catches H thrown = false

theorem reaches_iff {thrown : ClassName} {inside : List Frame} :
    Reaches H thrown inside ↔ (!inside.any (Frame.stops H thrown)) = true := by
  have hframe (f : Frame) : (∃ region, f = .tryBody region ∧ region.catches H thrown = false)
      ↔ f.stops H thrown = false := by
    cases f with
    | tryBody region => simp [Frame.stops]
    | functionBody body => simp [Frame.stops]
  simp [Reaches, hframe]

instance (thrown : ClassName) (inside : List Frame) : Decidable (Reaches H thrown inside) :=
  decidable_of_iff _ (reaches_iff H).symm

/-! ## What a frame counts -/

namespace TryRegion

/-- How many of the types that have come to a try body an entry of a clause observes: those that no
    clause before catches and that the entry may intercept. -/
def observations (came : List ClassName) (region : TryRegion) (clause : Nat) (type : ClassName) :
    Nat :=
  came.countP fun t =>
    (region.clauses.take clause).all (fun earlier => !earlier.catches H t) &&
      H.interception type t != .never

/-- A try body to which some types have come: each entry counts those that it observes. -/
def counting (came : List ClassName) (region : TryRegion) : TryRegion :=
  ⟨region.clauses.mapIdx fun k c =>
    { c with entries := c.entries.map fun e => e.count (region.observations H came k e.type) }⟩

theorem getElem?_counting (came : List ClassName) {region : TryRegion} {k i : Nat} {c : OpenClause}
    {e : CatchEntry} (hc : region.clauses[k]? = some c) (he : c.entries[i]? = some e) :
    ∃ after, (region.counting H came).clauses[k]? = some after ∧
      after.entries[i]? = some (e.count (region.observations H came k e.type)) := by
  have hclause : (region.counting H came).clauses[k]?
      = some ⟨c.line, c.entries.map fun e => e.count (region.observations H came k e.type)⟩ := by
    rw [counting, List.getElem?_mapIdx, hc]
    rfl
  refine ⟨_, hclause, ?_⟩
  rw [List.getElem?_map, he]
  rfl

end TryRegion

/-- A function body to which some types have come: in use are, besides those that were, the declared
    types that match one of them. -/
def FunctionBody.counting (came : List ClassName) (body : FunctionBody) : FunctionBody :=
  { body with
    used := body.used.insertAll (came.flatMap fun t =>
      body.declared.toList.filter fun d => H.interception d t != .never) }

def Frame.counting (came : List ClassName) : Frame → Frame
  | .tryBody region => .tryBody (region.counting H came)
  | .functionBody body => .functionBody (body.counting H came)

/-- The clauses of a try body count by themselves what gets past the clauses before. -/
theorem passAll_clauses (came : List ClassName) (region : TryRegion) :
    (clauseRelay H).passAll came region.clauses = (region.counting H came).clauses := by
  rw [Relay.passAll_eq_mapIdx, TryRegion.counting]
  refine List.mapIdx_eq_mapIdx_iff.2 ?_
  intro k hk
  rw [noteAll_clause]
  congr 1
  refine List.map_congr_left ?_
  intro e _
  rw [CatchEntry.offerAll, List.countP_filter, TryRegion.observations]
  congr 1
  refine List.countP_congr ?_
  intro t _
  simp only [clauseRelay, List.not_any_eq_all_not, Bool.and_comm]

theorem noteAll_eq_counting (came : List ClassName) (f : Frame) :
    (frameRelay H).noteAll came f = f.counting H came := by
  cases f with
  | tryBody region => rw [noteAll_tryBody, passAll_clauses, Frame.counting]
  | functionBody body => exact noteAll_functionBody_eq H came body

/-- Every frame counts the types that reach it. -/
theorem passAll_frames (types : List ClassName) (frames : List Frame) :
    (frameRelay H).passAll types frames
      = frames.mapIdx fun n f =>
          f.counting H (types.filter fun t => Reaches H t (frames.take n)) := by
  rw [Relay.passAll_eq_mapIdx]
  refine List.mapIdx_eq_mapIdx_iff.2 ?_
  intro n _
  rw [noteAll_eq_counting]
  congr 1
  refine List.filter_congr ?_
  intro t _
  rw [Bool.eq_iff_iff, decide_eq_true_iff, reaches_iff]
  rfl

/-! ## The innermost function and the tries inside it -/

def Frame.region? : Frame → Option TryRegion
  | .tryBody region => some region
  | .functionBody _ => none

def Frame.body? : Frame → Option FunctionBody
  | .tryBody _ => none
  | .functionBody body => some body

namespace Scope

/-- The try bodies inside the innermost function, or all of them if no function is open. -/
def triesAhead (frames : List Frame) : List TryRegion :=
  (frames.takeWhile fun f => f.body?.isNone).filterMap Frame.region?

/-- The innermost function. -/
def functionAround? (frames : List Frame) : Option FunctionBody := frames.findSome? Frame.body?

theorem boundary_eq (frames : List Frame) :
    boundary frames
      = match functionAround? frames with
        | some body => .function body.exempt
        | none => .global := by
  induction frames with
  | nil => rfl
  | cons f rest ih =>
    cases f with
    | tryBody region => exact ih
    | functionBody body => rfl

end Scope

/-- What is accepted is what a try inside the innermost function catches or a type that this
    function declares covers. -/
theorem accepted_iff {thrown : ClassName} {frames : List Frame} :
    accepted H thrown frames = true
      ↔ (∃ region ∈ Scope.triesAhead frames, region.catches H thrown = true) ∨
        ∃ body ∈ Scope.functionAround? frames, ∃ d ∈ body.declared,
          H.interception d thrown = .always := by
  induction frames with
  | nil => simp [accepted, Scope.triesAhead, Scope.functionAround?]
  | cons f rest ih =>
    cases f with
    | tryBody region =>
      have htries : Scope.triesAhead (.tryBody region :: rest)
          = region :: Scope.triesAhead rest := rfl
      have hfunction : Scope.functionAround? (.tryBody region :: rest)
          = Scope.functionAround? rest := rfl
      rw [accepted, Bool.or_eq_true, ih, htries, hfunction]
      simp only [List.mem_cons, exists_eq_or_imp, or_assoc]
    | functionBody body =>
      have htries : Scope.triesAhead (.functionBody body :: rest) = [] := rfl
      have hfunction : Scope.functionAround? (.functionBody body :: rest) = some body := rfl
      rw [accepted, htries, hfunction, FunctionBody.covers_iff]
      simp

/-- What lies outside the innermost function is as it was. -/
theorem drop_passAll (types : List ClassName) (frames : List Frame) :
    ((frameRelay H).passAll types frames).drop ((Scope.triesAhead frames).length + 1)
      = frames.drop ((Scope.triesAhead frames).length + 1) := by
  induction frames generalizing types with
  | nil => rw [Relay.passAll_nil]
  | cons f rest ih =>
    rw [Relay.passAll_cons, List.drop_succ_cons, List.drop_succ_cons]
    cases f with
    | tryBody region => exact ih _
    | functionBody body =>
      -- nothing gets past the function
      have hnone : (types.filter fun t => !(frameRelay H).stops t (.functionBody body)) = [] :=
        List.filter_eq_nil_iff.2 fun t _ => by simp [frameRelay, Frame.stops]
      rw [hnone]
      rfl

/-- **Recording a throw, in closed form.** Every frame counts exactly the thrown types that reach
    it, and changes in nothing else; outside the innermost function nothing changes. The number that
    a catch entry shows grows by just as many as it observes of these, unless its counter runs over.
    Left over are, in their order, the types that no try inside the innermost function catches and
    no type that it declares covers, and the boundary is this function or the global scope. -/
theorem Scope.record_closed_form (types : TypeSet) (s : Scope) :
    ∃ residual frames, s.record H types = (residual, ⟨frames⟩) ∧
      frames = s.frames.mapIdx (fun n f =>
        f.counting H (types.toList.filter fun t => Reaches H t (s.frames.take n))) ∧
      (∀ (n k i : Nat) (region : TryRegion) (c : OpenClause) (e : CatchEntry)
          (came : List ClassName),
        s.frames[n]? = some (.tryBody region) → region.clauses[k]? = some c →
        c.entries[i]? = some e →
        came = (types.toList.filter fun t => Reaches H t (s.frames.take n)) →
        e.observed + region.observations H came k e.type < UInt32.size →
        ∃ (region' : TryRegion) (c' : OpenClause) (e' : CatchEntry),
          frames[n]? = some (.tryBody region') ∧ region'.clauses[k]? = some c' ∧
          c'.entries[i]? = some e' ∧
          e'.observed = e.observed + region.observations H came k e.type) ∧
      frames.drop ((triesAhead s.frames).length + 1)
        = s.frames.drop ((triesAhead s.frames).length + 1) ∧
      residual.undeclared.toList = types.toList.filter (fun t =>
        (∀ region ∈ triesAhead s.frames, region.catches H t = false) ∧
        ∀ body ∈ functionAround? s.frames, ∀ d ∈ body.declared.toList,
          H.interception d t ≠ .always) ∧
      residual.boundary
        = match functionAround? s.frames with
          | some body => .function body.exempt
          | none => .global := by
  refine ⟨_, _, record_eq H types s, passAll_frames H types.toList s.frames, ?_,
    drop_passAll H types.toList s.frames, ?_, boundary_eq s.frames⟩
  · rintro n k i region c e came hregion hc he rfl hholds
    obtain ⟨c', hc', he'⟩ := TryRegion.getElem?_counting H _ hc he
    refine ⟨_, c', _, ?_, hc', he', CatchEntry.observed_count hholds⟩
    rw [passAll_frames, List.getElem?_mapIdx, hregion]
    rfl
  · rw [TypeSet.toList_filter]
    refine List.filter_congr ?_
    intro t _
    rw [Bool.eq_iff_iff, Bool.not_eq_true', ← Bool.not_eq_true, accepted_iff, decide_eq_true_iff,
      not_or]
    simp [TypeSet.mem_def]

/-- A try body in which the counter of one entry has room for one more and that of the other has
    none. -/
def Scope.nearlyFull : Scope :=
  ⟨[.tryBody ⟨[⟨3, [⟨⟨"RangeException"⟩, 4294967294, false⟩, ⟨⟨"Error"⟩, 4294967295, false⟩]⟩]⟩]⟩

def rangeRegistry : Registry :=
  Registry.empty.addClass (Registry.throwable "RangeException" "Exception")

/-- The entry that observes the type shows the greatest number there is, and the other one shows it
    still. -/
theorem Scope.record_closed_form_nearlyFull :
    ∃ residual frames,
      nearlyFull.record rangeRegistry.hierarchy (.single ⟨"RangeException"⟩)
        = (residual, ⟨frames⟩) ∧
      ∀ i < 2, ∃ (region : TryRegion) (c : OpenClause) (e : CatchEntry),
        frames[0]? = some (.tryBody region) ∧ region.clauses[0]? = some c ∧
        c.entries[i]? = some e ∧ e.observed = 4294967295 := by
  obtain ⟨residual, frames, hrecord, -, hcounts, -⟩ :=
    record_closed_form rangeRegistry.hierarchy (.single ⟨"RangeException"⟩) nearlyFull
  refine ⟨residual, frames, hrecord, ?_⟩
  intro i hi
  match i, hi with
  | 0, _ => exact hcounts 0 0 0 _ _ _ _ rfl rfl rfl rfl (by decide +kernel)
  | 1, _ =>
    obtain ⟨region, c, e, hregion, hc, he, hobserved⟩ :=
      hcounts 0 0 1 _ _ _ _ rfl rfl rfl rfl (by decide +kernel)
    exact ⟨region, c, e, hregion, hc, he, hobserved.trans (by decide +kernel)⟩

end ExceptionFlow
