import Mathlib.Data.List.Forall2
import ExceptionFlow.Proofs.Run

set_option autoImplicit false

/-! # Frames that cover alike

What escapes at a throwing construct depends on the try bodies around it and on what the innermost
function covers. Two scopes may differ in everything else, in what their functions declare to cover
that much and in which of it is in use, and the same is reported at every construct
(`Checker.throwReports_coversAlike`). Throws keep such scopes in step (`passAll_coversAlike`). -/

namespace ExceptionFlow

/-- Frames of which the second may be a function with other tags, as long as these cover the same
    types. -/
inductive Frame.CoversAlike (H : Hierarchy) : Frame → Frame → Prop where
  | tryBody (region : TryRegion) : CoversAlike H (.tryBody region) (.tryBody region)
  | functionBody {body other : FunctionBody} (sameBoundary : other.exempt = body.exempt)
      (sameCover : ∀ thrown, other.covers H thrown = body.covers H thrown) :
      CoversAlike H (.functionBody body) (.functionBody other)

section CoversAlike

variable {H : Hierarchy}

theorem Frame.CoversAlike.refl (f : Frame) : f.CoversAlike H f := by
  cases f with
  | tryBody region => exact .tryBody region
  | functionBody body => exact .functionBody rfl fun _ => rfl

theorem Frame.CoversAlike.kind_eq {f g : Frame} (h : f.CoversAlike H g) : g.kind = f.kind := by
  cases h <;> rfl

variable {frames like : List Frame}

theorem accepted_coversAlike (h : List.Forall₂ (Frame.CoversAlike H) frames like)
    (thrown : ClassName) : accepted H thrown like = accepted H thrown frames := by
  induction h with
  | nil => rfl
  | cons halike _ ih =>
    cases halike with
    | tryBody region => rw [accepted, accepted, ih]
    | functionBody _ sameCover => exact sameCover thrown

theorem boundary_coversAlike (h : List.Forall₂ (Frame.CoversAlike H) frames like) :
    Scope.boundary like = Scope.boundary frames := by
  induction h with
  | nil => rfl
  | cons halike _ ih =>
    cases halike with
    | tryBody region => exact ih
    | functionBody sameBoundary _ => rw [Scope.boundary, Scope.boundary, sameBoundary]

theorem noteAll_coversAlike (types : List ClassName) {f g : Frame} (h : f.CoversAlike H g) :
    ((frameRelay H).noteAll types f).CoversAlike H ((frameRelay H).noteAll types g) := by
  cases h with
  | tryBody region => exact .refl _
  | functionBody sameBoundary sameCover =>
    rw [noteAll_functionBody_eq, noteAll_functionBody_eq]
    exact .functionBody sameBoundary sameCover

/-- What is thrown leaves the frames covering alike. -/
theorem passAll_coversAlike (types : List ClassName)
    (h : List.Forall₂ (Frame.CoversAlike H) frames like) :
    List.Forall₂ (Frame.CoversAlike H) ((frameRelay H).passAll types frames)
      ((frameRelay H).passAll types like) := by
  induction h generalizing types with
  | nil =>
    rw [Relay.passAll_nil]
    exact .nil
  | @cons f g rest likeRest halike _ ih =>
    have hstops : (fun t => !(frameRelay H).stops t g) = fun t => !(frameRelay H).stops t f := by
      cases halike <;> rfl
    rw [Relay.passAll_cons, Relay.passAll_cons, hstops]
    exact .cons (noteAll_coversAlike types halike) (ih _)

/-- **The same escapes among frames that cover alike.** -/
theorem Checker.throwReports_coversAlike {K : Checker}
    (h : List.Forall₂ (Frame.CoversAlike K.hierarchy) frames like) (construct : Construct)
    (line : Nat) : K.throwReports line like construct = K.throwReports line frames construct := by
  simp only [throwReports, accepted_coversAlike h, boundary_coversAlike h]

end CoversAlike

end ExceptionFlow
