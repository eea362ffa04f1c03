import ExceptionFlow.Proofs.Covering
import ExceptionFlow.Proofs.Refusal

set_option autoImplicit false

/-! # The order of throws

Neighbouring throwing constructs may change places: each of them is reported as before, and nothing
else is reported in another way.

The scope does depend on their order, since a function keeps its used types in the order in which
they came into use. `Frame.Alike` disregards that order and no more. Frames that are alike behave
alike: every node has the same outcome and leaves them alike (`visit_alike`), so it is enough that a
list of types leaves alike frames in whatever order they are thrown (`passAll_alike`). -/

namespace ExceptionFlow

/-- Frames that differ at most in the order in which declared types came into use. -/
inductive Frame.Alike : Frame → Frame → Prop where
  | tryBody (region : TryRegion) : Alike (.tryBody region) (.tryBody region)
  | functionBody {body : FunctionBody} {used : TypeSet}
      (sameUse : ∀ type, type ∈ used ↔ type ∈ body.used) :
      Alike (.functionBody body) (.functionBody { body with used })

theorem Frame.Alike.refl (f : Frame) : f.Alike f := by
  cases f with
  | tryBody region => exact .tryBody region
  | functionBody body => exact .functionBody fun _ => Iff.rfl

theorem Frame.Alike.kind_eq {f g : Frame} (h : f.Alike g) : f.kind = g.kind := by
  cases h <;> rfl

variable {H : Hierarchy}

/-! ## Throws in another order -/

theorem offerAll_perm {types others : List ClassName} (hperm : types.Perm others) (e : CatchEntry) :
    e.offerAll H types = e.offerAll H others := by
  rw [CatchEntry.offerAll, CatchEntry.offerAll, hperm.countP_eq]

/-- Clauses count the same types whatever their order. -/
theorem clauses_passAll_perm {types others : List ClassName} (hperm : types.Perm others)
    (clauses : List OpenClause) :
    (clauseRelay H).passAll types clauses = (clauseRelay H).passAll others clauses := by
  induction clauses generalizing types others with
  | nil => rw [Relay.passAll_nil, Relay.passAll_nil]
  | cons c rest ih =>
    rw [Relay.passAll_cons, Relay.passAll_cons, noteAll_clause, noteAll_clause,
      funext (offerAll_perm hperm), ih (hperm.filter _)]

theorem noteAll_alike {types others : List ClassName} (hperm : types.Perm others) {f g : Frame}
    (h : f.Alike g) :
    ((frameRelay H).noteAll types f).Alike ((frameRelay H).noteAll others g) := by
  cases h with
  | tryBody region =>
    rw [noteAll_tryBody, noteAll_tryBody, clauses_passAll_perm hperm]
    exact .tryBody _
  | @functionBody body used sameUse =>
    obtain ⟨left, hleft, hmemLeft⟩ := noteAll_functionBody H types body
    obtain ⟨right, hright, hmemRight⟩ := noteAll_functionBody H others { body with used }
    rw [hleft, hright]
    refine .functionBody ?_
    intro type
    rw [hmemLeft, hmemRight, sameUse]
    simp only [hperm.mem_iff]

/-- Types that are thrown in another order leave alike frames. -/
theorem passAll_alike {types others : List ClassName} (hperm : types.Perm others)
    {frames like : List Frame} (h : List.Forall₂ Frame.Alike frames like) :
    List.Forall₂ Frame.Alike ((frameRelay H).passAll types frames)
      ((frameRelay H).passAll others like) := by
  induction h generalizing types others with
  | nil =>
    rw [Relay.passAll_nil, Relay.passAll_nil]
    exact .nil
  | @cons f g rest likeRest halike _ ih =>
    have hstops : (fun t => !(frameRelay H).stops t f) = fun t => !(frameRelay H).stops t g := by
      cases halike <;> rfl
    rw [Relay.passAll_cons, Relay.passAll_cons, hstops]
    exact .cons (noteAll_alike hperm halike) (ih (hperm.filter _))

/-! ## Alike frames behave alike -/

theorem Frame.Alike.coversAlike {f g : Frame} (h : f.Alike g) : f.CoversAlike H g := by
  cases h with
  | tryBody region => exact .tryBody region
  | functionBody _ => exact .functionBody rfl fun _ => rfl

namespace Checker

variable {K : Checker}

theorem throwReports_alike {frames like : List Frame} (h : List.Forall₂ Frame.Alike frames like)
    (construct : Construct) (line : Nat) :
    K.throwReports line frames construct = K.throwReports line like construct :=
  (throwReports_coversAlike (h.imp fun _ _ => Frame.Alike.coversAlike) construct line).symm

/-- The end of a function asks which types are in use, and not since when. -/
theorem endReports_alike {f g : Frame} (h : f.Alike g) (line : Nat) :
    K.endReports line f = K.endReports line g := by
  cases h with
  | tryBody region => rfl
  | @functionBody body used sameUse =>
    have hunused : body.declared.difference body.used = body.declared.difference used := by
      apply TypeSet.ext
      refine List.filter_congr ?_
      intro type _
      rw [Bool.eq_iff_iff, Bool.not_eq_true', Bool.not_eq_true', ← Bool.not_eq_true,
        ← Bool.not_eq_true, TypeSet.contains_iff, TypeSet.contains_iff, sameUse]
    simp only [endReports, unusedThrows, unusedTypes, hunused]

/-- **A node does the same to alike frames.** -/
theorem visit_alike {frames like : List Frame} (h : List.Forall₂ Frame.Alike frames like)
    (node : Node) (line : Nat) :
    (K.visit ⟨frames⟩ node line).1 = (K.visit ⟨like⟩ node line).1 ∧
      List.Forall₂ Frame.Alike (K.visit ⟨frames⟩ node line).2.frames
        (K.visit ⟨like⟩ node line).2.frames := by
  cases hrole : node.role with
  | opens start =>
    rw [visit_opens frames hrole, visit_opens like hrole]
    cases K.refusal? start with
    | none => exact ⟨rfl, .cons (.refl _) h⟩
    | some e => exact ⟨rfl, h⟩
  | closes kind =>
    rw [visit_closes frames hrole, visit_closes like hrole]
    cases h with
    | nil => exact ⟨rfl, .nil⟩
    | @cons f g rest likeRest halike hrest =>
      simp only [halike.kind_eq, endReports_alike halike]
      split
      · exact ⟨rfl, hrest⟩
      · exact ⟨rfl, .cons halike hrest⟩
  | throws construct =>
    rw [visit_throws frames hrole, visit_throws like hrole, throwReports_alike h]
    exact ⟨rfl, passAll_alike (.refl _) h⟩

/-- Nodes that are visited one after the other have the same outcomes among alike frames. -/
theorem visitAll_alike {scope like : Scope}
    (h : List.Forall₂ Frame.Alike scope.frames like.frames) (nodes : List (Node × Nat)) :
    (K.visitAll scope nodes).1 = (K.visitAll like nodes).1 := by
  induction nodes generalizing scope like with
  | nil => rfl
  | cons head rest ih =>
    obtain ⟨node, line⟩ := head
    obtain ⟨houtcome, hnext⟩ := visit_alike (K := K) h node line
    exact congrArg₂ List.cons houtcome (ih hnext)

/-! ## Neighbouring constructs -/

/-- Throwing constructs one after the other, each with its line. -/
def throwSites (sites : List (Construct × Nat)) : List (Node × Nat) :=
  sites.map fun site => (.throwing site.1, site.2)

variable (K) in
/-- The types that constructs throw, one construct after the other. -/
def typesThrownAt (sites : List (Construct × Nat)) : List ClassName :=
  sites.flatMap fun site => (K.throwModel.infer site.1).toList

/-- What is reported at a construct does not depend on what was thrown before it. -/
theorem throwReports_passAll (types : List ClassName) (frames : List Frame) (construct : Construct)
    (line : Nat) :
    K.throwReports line ((frameRelay K.hierarchy).passAll types frames) construct
      = K.throwReports line frames construct := by
  simp only [throwReports, accepted_passAll, boundary_passAll]

theorem visitAll_throwSites (frames : List Frame) (sites : List (Construct × Nat)) :
    K.visitAll ⟨frames⟩ (throwSites sites)
      = (sites.map fun site => .ok (K.throwReports site.2 frames site.1),
          ⟨(frameRelay K.hierarchy).passAll (K.typesThrownAt sites) frames⟩) := by
  induction sites generalizing frames with
  | nil => rfl
  | cons site rest ih =>
    have hhead := @visit_throws K frames (.throwing site.1) site.1 rfl site.2
    have hrest := ih ((frameRelay K.hierarchy).passAll (K.throwModel.infer site.1).toList frames)
    simp only [throwReports_passAll, ← Relay.passAll_append] at hrest
    simp only [throwSites, List.map_cons, visitAll, hhead] at hrest ⊢
    rw [hrest]
    rfl

/-- The outcomes of constructs among other nodes: only the frames behind them know their order. -/
theorem visitAll_around_throwSites (scope : Scope) (before after : List (Node × Nat))
    (sites : List (Construct × Nat)) :
    (K.visitAll scope (before ++ (throwSites sites ++ after))).1
      = (K.visitAll scope before).1 ++
        ((sites.map fun site =>
            .ok (K.throwReports site.2 (K.visitAll scope before).2.frames site.1)) ++
          (K.visitAll ⟨(frameRelay K.hierarchy).passAll (K.typesThrownAt sites)
            (K.visitAll scope before).2.frames⟩ after).1) := by
  rw [visitAll_append, visitAll_append, visitAll_throwSites]

theorem visitAll_behind_perm {sites others : List (Construct × Nat)} (hperm : sites.Perm others)
    (frames : List Frame) (after : List (Node × Nat)) :
    (K.visitAll ⟨(frameRelay K.hierarchy).passAll (K.typesThrownAt sites) frames⟩ after).1
      = (K.visitAll ⟨(frameRelay K.hierarchy).passAll (K.typesThrownAt others) frames⟩
          after).1 := by
  have hself : List.Forall₂ Frame.Alike frames frames := List.forall₂_same.2 fun f _ => .refl f
  exact visitAll_alike (passAll_alike (hperm.flatMap_right _) hself) after

/-- **Neighbouring throws may change places.** A run over the nodes is refused for the same reason
    or not at all, each of the throwing constructs is reported as before, and every other node has
    the outcome that it had. -/
theorem reordered_throws_report_alike (K : Checker) (before after : List (Node × Nat))
    {sites others : List (Construct × Nat)} (hperm : sites.Perm others) :
    (K.run .start (before ++ (throwSites others ++ after))).1
      = (K.run .start (before ++ (throwSites sites ++ after))).1 ∧
    ∃ (ahead behind : List Outcome) (reports : Construct × Nat → List Diagnostic),
      ahead.length = before.length ∧ behind.length = after.length ∧
      (K.runThrough .start (before ++ (throwSites sites ++ after))).1
        = ahead ++ (sites.map (fun site => .ok (reports site)) ++ behind) ∧
      (K.runThrough .start (before ++ (throwSites others ++ after))).1
        = ahead ++ (others.map (fun site => .ok (reports site)) ++ behind) := by
  have hnone (sites : List (Construct × Nat)) (reports : Construct × Nat → List Diagnostic) :
      (sites.map fun site => (.ok (reports site) : Outcome)).findSome? Outcome.error? = none := by
    refine findSome?_error?_eq_none ?_
    intro outcome houtcome
    obtain ⟨site, -, rfl⟩ := List.mem_map.1 houtcome
    rfl
  constructor
  · rw [run_fst, run_fst, visitAll_around_throwSites, visitAll_around_throwSites,
      visitAll_behind_perm hperm]
    simp only [List.findSome?_append, hnone]
  · have hsites := visitAll_around_throwSites (K := K) .empty before after sites
    have hothers := visitAll_around_throwSites (K := K) .empty before after others
    rw [← visitAll_behind_perm hperm] at hothers
    rw [runThrough_eq, runThrough_eq]
    exact ⟨_, _, fun site => K.throwReports site.2 (K.visitAll .empty before).2.frames site.1,
      length_visitAll _ before, length_visitAll _ after, hsites, hothers⟩

/-- A function that declares special cases of what it throws, so that both tags are in use and both
    throws are reported. -/
def declaresSpecialCases : List (Node × Nat) :=
  [(.functionStart ⟨.closure, [⟨"DomainException", none⟩, ⟨"RangeException", none⟩]⟩, 1)]

def throwRuntime : Construct × Nat := (.throw (.object ⟨"RuntimeException"⟩), 2)

def throwLogic : Construct × Nat := (.throw (.object ⟨"LogicException"⟩), 3)

/-- What the nodes behind the start report in the second order is found from the first. -/
theorem swapped_throws_report_alike :
    [throwRuntime, throwLogic].Perm [throwLogic, throwRuntime] ∧
    ((small.runThrough .start (declaresSpecialCases ++
        (throwSites [throwRuntime, throwLogic] ++ [(.functionEnd, 4)]))).1.tail.map
          Outcome.diagnostics
      = [[small.report 2 .missingThrows [⟨"RuntimeException"⟩]],
          [small.report 3 .missingThrows [⟨"LogicException"⟩]], []]) ∧
    ((small.runThrough .start (declaresSpecialCases ++
        (throwSites [throwLogic, throwRuntime] ++ [(.functionEnd, 4)]))).1.tail.map
          Outcome.diagnostics
      = [[small.report 3 .missingThrows [⟨"LogicException"⟩]],
          [small.report 2 .missingThrows [⟨"RuntimeException"⟩]], []]) := by
  have hperm : [throwRuntime, throwLogic].Perm [throwLogic, throwRuntime] := .swap ..
  have hfirst : (small.runThrough .start (declaresSpecialCases ++
        (throwSites [throwRuntime, throwLogic] ++ [(.functionEnd, 4)]))).1.tail.map
          Outcome.diagnostics
      = [[small.report 2 .missingThrows [⟨"RuntimeException"⟩]],
          [small.report 3 .missingThrows [⟨"LogicException"⟩]], []] := by
    decide +kernel
  refine ⟨hperm, hfirst, ?_⟩
  obtain ⟨-, ahead, behind, reports, hahead, hbehind, hbefore, hafter⟩ :=
    reordered_throws_report_alike small declaresSpecialCases [(.functionEnd, 4)] hperm
  obtain ⟨start, rfl⟩ := List.length_eq_one_iff.1 hahead
  obtain ⟨last, rfl⟩ := List.length_eq_one_iff.1 hbehind
  rw [hbefore] at hfirst
  rw [hafter]
  simp only [List.map_cons, List.map_nil, List.cons_append, List.nil_append, List.tail_cons,
    List.cons.injEq, and_true] at hfirst ⊢
  obtain ⟨hruntime, hlogic, hlast⟩ := hfirst
  exact ⟨hlogic, hruntime, hlast⟩

end Checker

end ExceptionFlow
