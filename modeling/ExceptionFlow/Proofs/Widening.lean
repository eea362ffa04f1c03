import Mathlib.Data.List.Forall2
import ExceptionFlow.Proofs.Propagation
import ExceptionFlow.Proofs.Subtyping

set_option autoImplicit false

/-! # Subtypes and wider handlers

Where a thrown type is accepted, each of its subtypes is accepted too, and it stays so if handlers
are replaced by handlers of supertypes (`Registry.record_monotone`). Neither the type nor its
subtypes need to stop at the same frame: a try further in may catch the subtype alone, and then the
frames further out, where the type itself stops, do not see it.

Both changes are one: a handler that intercepts every value of a type still does so when the type
goes down and the handler goes up (`Registry.interception_always_mono`). This is transitivity of
subtyping, which holds in every registry, also in one with circles of inheritance. -/

namespace ExceptionFlow

variable (H : Hierarchy)

/-! ## Wider handlers -/

/-- Frames of which the second has the wider handlers: for each type that an entry of the first
    catches, and for each type that the first declares, the second has this type or a supertype.
    What the frames have counted does not enter. -/
inductive Frame.Widened : Frame → Frame → Prop where
  | tryBody {region wide : TryRegion}
      (raised : ∀ c ∈ region.clauses, ∀ e ∈ c.entries, ∃ d ∈ wide.clauses, ∃ f ∈ d.entries,
        H.isSameOrSubclass e.type f.type = true) :
      Widened (.tryBody region) (.tryBody wide)
  | functionBody {body wide : FunctionBody}
      (raised : ∀ type ∈ body.declared, ∃ wider ∈ wide.declared,
        H.isSameOrSubclass type wider = true) :
      Widened (.functionBody body) (.functionBody wide)

variable {H}

theorem Frame.Widened.refl (f : Frame) : f.Widened H f := by
  cases f with
  | tryBody region =>
    refine .tryBody ?_
    intro c hc e he
    exact ⟨c, hc, e, he, H.isSameOrSubclass_refl e.type⟩
  | functionBody body =>
    refine .functionBody ?_
    intro type htype
    exact ⟨type, htype, H.isSameOrSubclass_refl type⟩

/-! ## What is accepted -/

namespace Registry

variable {r : Registry}

/-- What is accepted in some frames is accepted, with all its subtypes, where the handlers are
    wider. -/
theorem accepted_widened {frames wide : List Frame}
    (h : List.Forall₂ (Frame.Widened r.hierarchy) frames wide) {thrown special : ClassName}
    (hspecial : r.hierarchy.isSameOrSubclass special thrown = true)
    (haccepted : accepted r.hierarchy thrown frames = true) :
    accepted r.hierarchy special wide = true := by
  induction h with
  | nil => cases haccepted
  | cons hframe _ ih =>
    cases hframe with
    | tryBody raised =>
      rw [accepted, Bool.or_eq_true] at haccepted ⊢
      rcases haccepted with hcatches | hrest
      · obtain ⟨c, hc, e, he, halways⟩ := (TryRegion.catches_iff _).1 hcatches
        obtain ⟨d, hd, f, hf, hwider⟩ := raised c hc e he
        have hup := interception_always_mono halways hspecial hwider
        exact .inl ((TryRegion.catches_iff _).2 ⟨d, hd, f, hf, hup⟩)
      · exact .inr (ih hrest)
    | functionBody raised =>
      rw [accepted] at haccepted ⊢
      obtain ⟨type, htype, halways⟩ := (FunctionBody.covers_iff _).1 haccepted
      obtain ⟨wider, hmem, hwider⟩ := raised type htype
      have hup := interception_always_mono halways hspecial hwider
      exact (FunctionBody.covers_iff _).2 ⟨wider, hmem, hup⟩

/-- **Nothing escapes where more is accepted.** In every registry: if nothing is left over of a
    thrown type, nothing is left over of a type at or below it; and if nothing is left over of some
    types, nothing is left over of them where the handlers are wider. -/
theorem record_monotone (r : Registry) (s : Scope) :
    (∀ special thrown, r.hierarchy.isSameOrSubclass special thrown = true →
      (s.record r.hierarchy (.single thrown)).1.undeclared.isEmpty = true →
        (s.record r.hierarchy (.single special)).1.undeclared.isEmpty = true) ∧
    ∀ (wide : Scope) (types : TypeSet),
      List.Forall₂ (Frame.Widened r.hierarchy) s.frames wide.frames →
      (s.record r.hierarchy types).1.undeclared.isEmpty = true →
        (wide.record r.hierarchy types).1.undeclared.isEmpty = true := by
  constructor
  · intro special thrown hspecial hempty
    rw [undeclared_isEmpty_iff] at hempty ⊢
    have hsame : List.Forall₂ (Frame.Widened r.hierarchy) s.frames s.frames :=
      List.forall₂_same.2 fun f _ => .refl f
    intro t ht
    obtain rfl := TypeSet.mem_single.1 ht
    exact accepted_widened hsame hspecial (hempty thrown (TypeSet.mem_single.2 rfl))
  · intro wide types hwide hempty
    rw [undeclared_isEmpty_iff] at hempty ⊢
    intro t ht
    exact accepted_widened hwide (r.hierarchy.isSameOrSubclass_refl t) (hempty t ht)

/-- The innermost try catches one class of the circle's hierarchy only, and the function declares
    another. -/
def narrowScope : Scope :=
  ⟨[.tryBody (.ofClauses [⟨[⟨"Timeout"⟩], 3⟩]),
    .functionBody (.enter .closure (.single ⟨"Failure"⟩) false)]⟩

def wideScope : Scope :=
  ⟨[.tryBody (.ofClauses [⟨[⟨"Failure"⟩], 3⟩]),
    .functionBody (.enter .closure (.single ⟨"Fault"⟩) false)]⟩

/-- A type that goes up to the function, a subtype of it that the try catches before, and both in a
    scope with wider handlers. -/
theorem record_monotone_in_circle :
    circle.hierarchy.isSubclass ⟨"Fault"⟩ ⟨"Failure"⟩ = true ∧
    circle.hierarchy.isSubclass ⟨"Failure"⟩ ⟨"Fault"⟩ = true ∧
    (narrowScope.frames.map fun f =>
      (f.stops circle.hierarchy ⟨"Fault"⟩, f.stops circle.hierarchy ⟨"Timeout"⟩))
        = [(false, true), (true, true)] ∧
    (narrowScope.record circle.hierarchy (.single ⟨"Fault"⟩)).1.undeclared.isEmpty = true ∧
    (narrowScope.record circle.hierarchy (.single ⟨"Timeout"⟩)).1.undeclared.isEmpty = true ∧
    List.Forall₂ (Frame.Widened circle.hierarchy) narrowScope.frames wideScope.frames ∧
    (wideScope.record circle.hierarchy (.single ⟨"Fault"⟩)).1.undeclared.isEmpty = true := by
  have hbelow : circle.hierarchy.isSameOrSubclass ⟨"Timeout"⟩ ⟨"Fault"⟩ = true := by decide +kernel
  have hfault :
      (narrowScope.record circle.hierarchy (.single ⟨"Fault"⟩)).1.undeclared.isEmpty = true := by
    decide +kernel
  have hwide : List.Forall₂ (Frame.Widened circle.hierarchy) narrowScope.frames
      wideScope.frames := by
    refine .cons (.tryBody ?_) (.cons (.functionBody ?_) .nil)
    · decide +kernel
    · intro type htype
      obtain rfl := TypeSet.mem_single.1 htype
      exact ⟨⟨"Fault"⟩, TypeSet.mem_single.2 rfl, by decide +kernel⟩
  obtain ⟨hdown, hup⟩ := record_monotone circle narrowScope
  exact ⟨by decide +kernel, by decide +kernel, by decide +kernel, hfault,
    hdown ⟨"Timeout"⟩ ⟨"Fault"⟩ hbelow hfault, hwide, hup wideScope _ hwide hfault⟩

end Registry

end ExceptionFlow
