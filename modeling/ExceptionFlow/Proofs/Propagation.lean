import ExceptionFlow.Scope

set_option autoImplicit false

/-! # Propagation

A thrown type goes along the clauses of a try body and along the frames of a scope in the same way:
everything it comes to takes note of it, up to the first that stops it. `Relay` says this once for
both. What is noted never changes what is stopped, so a list of types can be followed stop by stop
instead of type by type (`Relay.passAll_cons`): a stop sees the types that came to it, and passes on
those it does not stop. At the end every stop has noted what none before it stops
(`Relay.passAll_eq_mapIdx`).

From this come closed forms for all that recording a throw does: which types are left
(`record_eq`), how often each catch entry has seen a type (`noteAll_clause`), and which declared
types are in use (`noteAll_functionBody`). -/

namespace ExceptionFlow

/-! ## Relays -/

/-- How the stops of a list deal with what is passed along it. -/
structure Relay (σ τ : Type) where
  /-- A stop after it has taken note of an item. -/
  note : τ → σ → σ
  stops : τ → σ → Bool
  stops_note : ∀ (t other : τ) (s : σ), stops t (note other s) = stops t s

namespace Relay

variable {σ τ : Type} (R : Relay σ τ)

def noteAll (ts : List τ) (s : σ) : σ := ts.foldl (fun s t => R.note t s) s

/-- Pass an item along, up to the first that stops it. -/
def pass (t : τ) : List σ → List σ
  | [] => []
  | s :: rest => R.note t s :: if R.stops t s then rest else pass t rest

/-- Pass items along, one after the other. -/
def passAll (ts : List τ) (stations : List σ) : List σ := ts.foldl (fun l t => R.pass t l) stations

theorem passAll_nil (ts : List τ) : R.passAll ts [] = [] := by
  induction ts with
  | nil => rfl
  | cons t rest ih => exact ih

/-- The first stop notes all items, and the others get those that it does not stop. -/
theorem passAll_cons (ts : List τ) (s : σ) (rest : List σ) :
    R.passAll ts (s :: rest)
      = R.noteAll ts s :: R.passAll (ts.filter fun t => !R.stops t s) rest := by
  induction ts generalizing s rest with
  | nil => rfl
  | cons t others ih =>
    have hstep : R.passAll (t :: others) (s :: rest)
        = R.passAll others (R.note t s :: if R.stops t s then rest else R.pass t rest) := rfl
    rw [hstep, ih]
    simp only [R.stops_note, List.filter_cons]
    by_cases h : R.stops t s = true
    · simp [h, noteAll]
    · simp [h, noteAll, passAll]

theorem stops_noteAll (t : τ) (ts : List τ) (s : σ) : R.stops t (R.noteAll ts s) = R.stops t s := by
  induction ts generalizing s with
  | nil => rfl
  | cons other rest ih => exact (ih (R.note other s)).trans (R.stops_note t other s)

/-- Whether some stop would stop an item does not depend on what was passed along before. -/
theorem any_stops_pass (t other : τ) (stations : List σ) :
    (R.pass other stations).any (R.stops t) = stations.any (R.stops t) := by
  induction stations with
  | nil => rfl
  | cons s rest ih =>
    rw [pass, List.any_cons, List.any_cons, R.stops_note]
    split
    · rfl
    · rw [ih]

theorem noteAll_append (ts more : List τ) (s : σ) :
    R.noteAll (ts ++ more) s = R.noteAll more (R.noteAll ts s) :=
  List.foldl_append

theorem passAll_append (ts more : List τ) (stations : List σ) :
    R.passAll (ts ++ more) stations = R.passAll more (R.passAll ts stations) :=
  List.foldl_append

theorem length_passAll (ts : List τ) (stations : List σ) :
    (R.passAll ts stations).length = stations.length := by
  induction stations generalizing ts with
  | nil => rw [passAll_nil]
  | cons s rest ih => rw [passAll_cons, List.length_cons, List.length_cons, ih]

/-- What gets past a stop and then past others gets past all of them. -/
theorem filter_not_any_cons (ts : List τ) (s : σ) (rest : List σ) :
    (ts.filter fun t => !R.stops t s).filter (fun t => !rest.any (R.stops t))
      = ts.filter fun t => !(s :: rest).any (R.stops t) := by
  rw [List.filter_filter]
  refine List.filter_congr ?_
  intro t _
  rw [List.any_cons, Bool.not_or, Bool.and_comm]

/-- The later stops get what none of the earlier ones stops. -/
theorem passAll_append_stations (ts : List τ) (earlier later : List σ) :
    R.passAll ts (earlier ++ later)
      = R.passAll ts earlier ++ R.passAll (ts.filter fun t => !earlier.any (R.stops t)) later := by
  induction earlier generalizing ts with
  | nil =>
    have hall : (ts.filter fun t => !([] : List σ).any (R.stops t)) = ts :=
      List.filter_eq_self.2 fun t _ => rfl
    rw [hall, passAll_nil, List.nil_append, List.nil_append]
  | cons s rest ih =>
    rw [List.cons_append, passAll_cons, passAll_cons, List.cons_append, ih, filter_not_any_cons]

/-- Every stop has noted the items that none before it stops. -/
theorem passAll_eq_mapIdx (ts : List τ) (stations : List σ) :
    R.passAll ts stations
      = stations.mapIdx fun n s =>
          R.noteAll (ts.filter fun t => !(stations.take n).any (R.stops t)) s := by
  induction stations generalizing ts with
  | nil => exact R.passAll_nil ts
  | cons s rest ih =>
    have hfirst : (ts.filter fun t => !((s :: rest).take 0).any (R.stops t)) = ts :=
      List.filter_eq_self.2 fun t _ => rfl
    rw [passAll_cons, ih, List.mapIdx_cons, hfirst]
    congr 1
    refine List.mapIdx_eq_mapIdx_iff.2 ?_
    intro n _
    rw [filter_not_any_cons, List.take_succ_cons]

end Relay

/-! ## Counters -/

namespace CatchEntry

/-- An entry after it has counted some more types. -/
def count (n : Nat) (e : CatchEntry) : CatchEntry :=
  { e with counter := e.counter + .ofNat n }

@[simp] theorem type_count (n : Nat) (e : CatchEntry) : (e.count n).type = e.type := rfl

@[simp] theorem count_zero (e : CatchEntry) : e.count 0 = e := by simp [count]

theorem count_count (m n : Nat) (e : CatchEntry) : (e.count m).count n = e.count (m + n) := by
  simp only [count, UInt32.ofNat_add, UInt32.add_assoc]

/-- The counter shows how much was counted, as long as it does not run over. -/
theorem observed_count {n : Nat} {e : CatchEntry} (h : e.observed + n < UInt32.size) :
    (e.count n).observed = e.observed + n := by
  have hn : (UInt32.ofNat n).toNat = n :=
    UInt32.toNat_ofNat_of_lt' (Nat.lt_of_le_of_lt (Nat.le_add_left n e.observed) h)
  rw [observed, count, UInt32.toNat_add, hn]
  exact Nat.mod_eq_of_lt h

/-- A counter that is full starts again. -/
example : (CatchEntry.count 1 ⟨⟨"Error"⟩, 4294967295, false⟩).observed = 0 := by decide

theorem counter_eq_zero_iff {e : CatchEntry} : e.counter = 0 ↔ e.observed = 0 := by
  rw [observed, ← UInt32.toNat_inj]
  rfl

end CatchEntry

variable (H : Hierarchy)

/-! ## Catch clauses -/

theorem CatchEntry.offer_eq (thrown : ClassName) (e : CatchEntry) :
    e.offer H thrown
      = (H.interception e.type thrown == .always,
          e.count (if H.interception e.type thrown != .never then 1 else 0)) := by
  unfold CatchEntry.offer
  cases H.interception e.type thrown with
  | always => rfl
  | sometimes => rfl
  | never => exact congrArg _ e.count_zero.symm

/-- Whether an entry of the clause intercepts every value of a type. -/
def OpenClause.catches (thrown : ClassName) (c : OpenClause) : Bool :=
  c.entries.any fun e => H.interception e.type thrown == .always

theorem TryRegion.catches_iff {region : TryRegion} {thrown : ClassName} :
    region.catches H thrown = true
      ↔ ∃ c ∈ region.clauses, ∃ e ∈ c.entries, H.interception e.type thrown = .always := by
  simp [TryRegion.catches]

theorem OpenClause.offer_eq (thrown : ClassName) (c : OpenClause) :
    c.offer H thrown
      = (c.catches H thrown,
          { c with entries := c.entries.map fun e => (e.offer H thrown).2 }) := by
  simp [OpenClause.offer, OpenClause.catches, CatchEntry.offer_eq, Function.comp_def]

/-- Clauses note what is offered to them and stop what they catch. -/
def clauseRelay : Relay OpenClause ClassName where
  note thrown c := (c.offer H thrown).2
  stops thrown c := c.catches H thrown
  stops_note t other c := by
    simp [OpenClause.offer_eq, OpenClause.catches, CatchEntry.offer_eq, Function.comp_def]

theorem offerClauses_eq (thrown : ClassName) (clauses : List OpenClause) :
    offerClauses H thrown clauses
      = (clauses.any (OpenClause.catches H thrown), (clauseRelay H).pass thrown clauses) := by
  induction clauses with
  | nil => rfl
  | cons c rest ih =>
    rw [offerClauses, OpenClause.offer_eq]
    cases hc : c.catches H thrown <;>
      simp [ih, hc, Relay.pass, clauseRelay, OpenClause.offer_eq]

theorem TryRegion.offer_eq (thrown : ClassName) (region : TryRegion) :
    region.offer H thrown
      = (region.catches H thrown, ⟨(clauseRelay H).pass thrown region.clauses⟩) := by
  rw [TryRegion.offer, offerClauses_eq]
  rfl

/-- An entry counts the types that it may intercept. -/
def CatchEntry.offerAll (types : List ClassName) (e : CatchEntry) : CatchEntry :=
  e.count (types.countP fun thrown => H.interception e.type thrown != .never)

theorem noteAll_clause (types : List ClassName) (c : OpenClause) :
    (clauseRelay H).noteAll types c
      = { c with entries := c.entries.map (CatchEntry.offerAll H types) } := by
  induction types generalizing c with
  | nil =>
    have hnone : CatchEntry.offerAll H [] = id := by
      funext e
      simp [CatchEntry.offerAll]
    rw [hnone, List.map_id]
    rfl
  | cons thrown rest ih =>
    have hstep : (clauseRelay H).noteAll (thrown :: rest) c
        = (clauseRelay H).noteAll rest (c.offer H thrown).2 := rfl
    rw [hstep, ih, OpenClause.offer_eq]
    simp only [List.map_map]
    congr 1
    refine List.map_congr_left ?_
    intro e _
    -- the entry keeps its class and mark, so only the two ways of counting are left to compare
    simp only [Function.comp_apply, CatchEntry.offerAll, CatchEntry.offer_eq, List.countP_cons,
      CatchEntry.type_count, CatchEntry.count_count, Nat.add_comm]

/-! ## Function bodies -/

/-- Whether a declared type covers every value of a type. -/
def FunctionBody.covers (thrown : ClassName) (body : FunctionBody) : Bool :=
  body.declared.toList.any fun declared => H.interception declared thrown == .always

theorem FunctionBody.covers_iff {body : FunctionBody} {thrown : ClassName} :
    body.covers H thrown = true ↔ ∃ d ∈ body.declared, H.interception d thrown = .always := by
  simp [FunctionBody.covers, TypeSet.mem_def]

theorem foldl_matchDeclared_fst (thrown : ClassName) (declared : List ClassName)
    (state : Bool × TypeSet) :
    (declared.foldl (FunctionBody.matchDeclared H thrown) state).1
      = (state.1 || declared.any fun d => H.interception d thrown == .always) := by
  induction declared generalizing state with
  | nil => simp
  | cons d rest ih =>
    rw [List.foldl_cons, ih, FunctionBody.matchDeclared, List.any_cons]
    cases H.interception d thrown with
    | always => simp
    | sometimes => rfl
    | never => rfl

/-- The declared types that match a type are marked in their order. -/
theorem foldl_matchDeclared_snd (thrown : ClassName) (declared : List ClassName)
    (state : Bool × TypeSet) :
    (declared.foldl (FunctionBody.matchDeclared H thrown) state).2
      = state.2.insertAll (declared.filter fun d => H.interception d thrown != .never) := by
  induction declared generalizing state with
  | nil => rfl
  | cons d rest ih =>
    rw [List.foldl_cons, ih, FunctionBody.matchDeclared, List.filter_cons]
    cases H.interception d thrown with
    | always => rfl
    | sometimes => rfl
    | never => rfl

theorem FunctionBody.release_fst (thrown : ClassName) (body : FunctionBody) :
    (body.release H thrown).1 = body.covers H thrown := by
  simp [FunctionBody.release, FunctionBody.covers, foldl_matchDeclared_fst]

theorem FunctionBody.release_snd (thrown : ClassName) (body : FunctionBody) :
    (body.release H thrown).2
      = { body with
          used := body.used.insertAll
            (body.declared.toList.filter fun d => H.interception d thrown != .never) } := by
  rw [← foldl_matchDeclared_snd H thrown _ (false, body.used)]
  rfl

/-! ## Frames -/

namespace Frame

/-- A frame after a thrown type has come to it. -/
def absorb (thrown : ClassName) : Frame → Frame
  | .tryBody region => .tryBody (region.offer H thrown).2
  | .functionBody body => .functionBody (body.release H thrown).2

/-- Whether a thrown type gets no further than the frame: no type leaves a function without being
    matched there. -/
def stops (thrown : ClassName) : Frame → Bool
  | .tryBody region => region.catches H thrown
  | .functionBody _ => true

end Frame

/-- Frames absorb what comes to them. -/
def frameRelay : Relay Frame ClassName where
  note := Frame.absorb H
  stops := Frame.stops H
  stops_note t other f := by
    cases f with
    | functionBody body => rfl
    | tryBody region =>
      rw [Frame.absorb, TryRegion.offer_eq]
      exact (clauseRelay H).any_stops_pass t other region.clauses

/-- Whether a thrown type is caught by a try body or covered by the innermost function. -/
def accepted (thrown : ClassName) : List Frame → Bool
  | [] => false
  | .tryBody region :: rest => region.catches H thrown || accepted thrown rest
  | .functionBody body :: _ => body.covers H thrown

theorem propagate_eq (thrown : ClassName) (frames : List Frame) :
    Scope.propagate H thrown frames
      = (accepted H thrown frames, (frameRelay H).pass thrown frames) := by
  induction frames with
  | nil => rfl
  | cons f rest ih =>
    cases f with
    | functionBody body =>
      rw [Scope.propagate]
      simp [accepted, Relay.pass, frameRelay, Frame.stops, Frame.absorb, ← FunctionBody.release_fst]
    | tryBody region =>
      rw [Scope.propagate, TryRegion.offer_eq, ih]
      cases hc : region.catches H thrown <;>
        simp [hc, accepted, Relay.pass, frameRelay, Frame.stops, Frame.absorb, TryRegion.offer_eq]

/-- What is accepted does not depend on what was thrown before. -/
theorem accepted_pass (t other : ClassName) (frames : List Frame) :
    accepted H t ((frameRelay H).pass other frames) = accepted H t frames := by
  induction frames with
  | nil => rfl
  | cons f rest ih =>
    cases f with
    | functionBody body => rfl
    | tryBody region =>
      have hcatches : (region.offer H other).2.catches H t = region.catches H t :=
        (frameRelay H).stops_note t other (.tryBody region)
      have hrest : accepted H t
          (if (frameRelay H).stops other (.tryBody region) then rest
            else (frameRelay H).pass other rest) = accepted H t rest := by
        split
        · rfl
        · exact ih
      show ((region.offer H other).2.catches H t || _) = (region.catches H t || _)
      rw [hcatches, hrest]

theorem accepted_passAll (t : ClassName) (types : List ClassName) (frames : List Frame) :
    accepted H t ((frameRelay H).passAll types frames) = accepted H t frames := by
  induction types generalizing frames with
  | nil => rfl
  | cons other rest ih => exact (ih _).trans (accepted_pass H t other frames)

theorem boundary_pass (thrown : ClassName) (frames : List Frame) :
    Scope.boundary ((frameRelay H).pass thrown frames) = Scope.boundary frames := by
  induction frames with
  | nil => rfl
  | cons f rest ih =>
    cases f with
    | functionBody body => rfl
    | tryBody region =>
      rw [Relay.pass]
      split
      · rfl
      · exact ih

theorem boundary_passAll (types : List ClassName) (frames : List Frame) :
    Scope.boundary ((frameRelay H).passAll types frames) = Scope.boundary frames := by
  induction types generalizing frames with
  | nil => rfl
  | cons t rest ih => exact (ih _).trans (boundary_pass H t frames)

/-! ## Records -/

/-- Types thrown at one place are judged by the frames as they were before any of them. -/
theorem foldl_recordOne (types : List ClassName) (undeclared : TypeSet) (frames : List Frame) :
    types.foldl (Scope.recordOne H) (undeclared, frames)
      = (undeclared.insertAll (types.filter fun t => !accepted H t frames),
          (frameRelay H).passAll types frames) := by
  induction types generalizing undeclared frames with
  | nil => rfl
  | cons t rest ih =>
    -- the frames that the rest is judged by have noted `t`, which `accepted_pass` disregards
    rw [List.foldl_cons, Scope.recordOne, propagate_eq, List.filter_cons]
    cases ht : accepted H t frames with
    | true =>
      simp only [ih, accepted_pass]
      rfl
    | false =>
      simp only [ih, accepted_pass]
      rfl

/-- Of types thrown at one place, those are left that no frame accepts, in their order. -/
theorem record_eq (types : TypeSet) (s : Scope) :
    s.record H types
      = (⟨types.filter fun t => !accepted H t s.frames, Scope.boundary s.frames⟩,
          ⟨(frameRelay H).passAll types.toList s.frames⟩) := by
  have hleft : (∅ : TypeSet).insertAll (types.toList.filter fun t => !accepted H t s.frames)
      = types.filter fun t => !accepted H t s.frames := by
    apply TypeSet.ext
    rw [TypeSet.toList_insertAll, TypeSet.toList_empty, List.nil_append, TypeSet.toList_filter]
    exact TypeSet.eraseDups_eq_self (types.nodup.filter _)
  rw [Scope.record, foldl_recordOne, hleft]

/-- Nothing is left of a throw exactly if every type of it is accepted. -/
theorem undeclared_isEmpty_iff {types : TypeSet} {s : Scope} :
    (s.record H types).1.undeclared.isEmpty = true
      ↔ ∀ t ∈ types, accepted H t s.frames = true := by
  rw [record_eq, TypeSet.isEmpty, List.isEmpty_iff, TypeSet.toList_filter, List.filter_eq_nil_iff]
  simp [TypeSet.mem_def]

/-- Record that types are thrown at several places, one after the other. -/
def Scope.recordEach : List TypeSet → Scope → List Residual × Scope
  | [], s => ([], s)
  | types :: rest, s =>
    let (residual, next) := s.record H types
    let (residuals, last) := recordEach rest next
    (residual :: residuals, last)

/-- Throws at several places are all judged by the frames as they were before the first of them. -/
theorem recordEach_eq (throws : List TypeSet) (frames : List Frame) :
    Scope.recordEach H throws ⟨frames⟩
      = (throws.map fun types =>
          ⟨types.filter fun t => !accepted H t frames, Scope.boundary frames⟩,
          ⟨(frameRelay H).passAll (throws.flatMap TypeSet.toList) frames⟩) := by
  induction throws generalizing frames with
  | nil => rfl
  | cons types rest ih =>
    have hrest := ih ((frameRelay H).passAll types.toList frames)
    simp only [accepted_passAll, boundary_passAll, ← Relay.passAll_append] at hrest
    rw [Scope.recordEach, record_eq]
    simp only [hrest]
    rfl

/-! ## Frames after a list of throws -/

theorem Frame.kind_absorb (thrown : ClassName) (f : Frame) :
    (f.absorb H thrown).kind = f.kind := by
  cases f <;> rfl

theorem kind_noteAll (types : List ClassName) (f : Frame) :
    ((frameRelay H).noteAll types f).kind = f.kind := by
  induction types generalizing f with
  | nil => rfl
  | cons t rest ih => exact (ih (f.absorb H t)).trans (f.kind_absorb H t)

theorem kinds_pass (thrown : ClassName) (frames : List Frame) :
    ((frameRelay H).pass thrown frames).map Frame.kind = frames.map Frame.kind := by
  induction frames with
  | nil => rfl
  | cons f rest ih =>
    have hkind : ((frameRelay H).note thrown f).kind = f.kind := f.kind_absorb H thrown
    rw [Relay.pass, List.map_cons, List.map_cons, hkind]
    split
    · rfl
    · rw [ih]

theorem kinds_passAll (types : List ClassName) (frames : List Frame) :
    ((frameRelay H).passAll types frames).map Frame.kind = frames.map Frame.kind := by
  induction types generalizing frames with
  | nil => rfl
  | cons t rest ih => exact (ih ((frameRelay H).pass t frames)).trans (kinds_pass H t frames)

theorem noteAll_tryBody (types : List ClassName) (region : TryRegion) :
    (frameRelay H).noteAll types (.tryBody region)
      = .tryBody ⟨(clauseRelay H).passAll types region.clauses⟩ := by
  induction types generalizing region with
  | nil => rfl
  | cons t rest ih =>
    have hstep : (frameRelay H).noteAll (t :: rest) (.tryBody region)
        = (frameRelay H).noteAll rest (.tryBody (region.offer H t).2) := rfl
    rw [hstep, ih, TryRegion.offer_eq]
    rfl

/-- A function marks the declared types that match what is thrown, type after type. -/
theorem noteAll_functionBody_eq (types : List ClassName) (body : FunctionBody) :
    (frameRelay H).noteAll types (.functionBody body)
      = .functionBody { body with
          used := body.used.insertAll (types.flatMap fun t =>
            body.declared.toList.filter fun d => H.interception d t != .never) } := by
  induction types generalizing body with
  | nil => rfl
  | cons t rest ih =>
    have hstep : (frameRelay H).noteAll (t :: rest) (.functionBody body)
        = (frameRelay H).noteAll rest (.functionBody (body.release H t).2) := rfl
    rw [hstep, ih, FunctionBody.release_snd, List.flatMap_cons, TypeSet.insertAll_append]

/-- A function marks those of its declared types as used that match something thrown. -/
theorem noteAll_functionBody (types : List ClassName) (body : FunctionBody) :
    ∃ used : TypeSet,
      (frameRelay H).noteAll types (.functionBody body) = .functionBody { body with used } ∧
      ∀ type, type ∈ used ↔ type ∈ body.used ∨
        type ∈ body.declared ∧ ∃ t ∈ types, H.interception type t ≠ .never := by
  refine ⟨_, noteAll_functionBody_eq H types body, ?_⟩
  intro type
  rw [TypeSet.mem_insertAll]
  refine or_congr_right ?_
  simp only [List.mem_flatMap, List.mem_filter, bne_iff_ne, TypeSet.mem_def]
  constructor
  · rintro ⟨t, ht, hdeclared, hmatch⟩
    exact ⟨hdeclared, t, ht, hmatch⟩
  · rintro ⟨hdeclared, t, ht, hmatch⟩
    exact ⟨t, ht, hdeclared, hmatch⟩

end ExceptionFlow
