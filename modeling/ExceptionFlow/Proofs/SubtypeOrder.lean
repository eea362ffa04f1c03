import Mathlib.Order.Defs.Unbundled
import ExceptionFlow.Proofs.Subtyping

set_option autoImplicit false

/-! # Subtyping as an order

Every subtype question runs a search of its own. What the answers have to do with each other is said
here: being the same class or below it is a preorder of all names, known or not, and being the same
class is its equality as long as no classes extend each other in a circle
(`Registry.subtyping_orders`).

Interception is defined by two subtype questions, asked one after the other. Its meaning is about
all the classes that there are: a handler intercepts every value of a type if whatever is below the
type is below the handler (`Registry.interception_meaning`). That the two say the same is the
preorder again. -/

namespace ExceptionFlow

/-! ## Identity and strict subtyping -/

namespace Registry

variable {r : Registry}

theorem isSameClass_equivalence (r : Registry) :
    Equivalence fun a b => r.hierarchy.isSameClass a b = true := by
  constructor
  · intro a
    exact isSameClass_iff.2 rfl
  · intro a b hab
    exact isSameClass_iff.2 (isSameClass_iff.1 hab).symm
  · intro a b c hab hbc
    exact isSameClass_iff.2 ((isSameClass_iff.1 hab).trans (isSameClass_iff.1 hbc))

theorem isSameOrSubclass_preorder (r : Registry) :
    IsPreorder ClassName fun a b => r.hierarchy.isSameOrSubclass a b = true where
  refl a := r.hierarchy.isSameOrSubclass_refl a
  trans _ _ _ hab hbc := isSameOrSubclass_trans hab hbc

theorem Acyclic.isSubclass_asymm (h : r.Acyclic) {a b : ClassName}
    (hab : r.hierarchy.isSubclass a b = true) : r.hierarchy.isSubclass b a = false := by
  refine Bool.eq_false_iff.2 ?_
  intro hba
  have haa := h.isSubclass_trans hab hba
  rw [r.hierarchy.isSubclass_self] at haa
  cases haa

/-- Without circles, names that are below each other are names of one class. -/
theorem Acyclic.isSameClass_of_below (h : r.Acyclic) {a b : ClassName}
    (hab : r.hierarchy.isSameOrSubclass a b = true)
    (hba : r.hierarchy.isSameOrSubclass b a = true) : r.hierarchy.isSameClass a b = true := by
  rw [isSameOrSubclass_iff] at hab hba
  rw [isSameClass_iff]
  rcases Relation.reflTransGen_iff_eq_or_transGen.1 hab with hkey | hpath
  · exact hkey.symm
  · exact absurd (hpath.trans_left hba) (h _)

/-- **Subtyping is an order.** In every registry, being the same class or a subclass is a preorder
    of all names, being the same class is an equivalence, names of one class may replace each other
    on both sides of strict subtyping, and no name is strictly below itself. If no class is above
    itself, strict subtyping is also asymmetric and transitive, and names that are below each other
    denote one class. -/
theorem subtyping_orders (r : Registry) :
    IsPreorder ClassName (fun a b => r.hierarchy.isSameOrSubclass a b = true) ∧
    Equivalence (fun a b => r.hierarchy.isSameClass a b = true) ∧
    (∀ a a' b b', r.hierarchy.isSameClass a a' = true → r.hierarchy.isSameClass b b' = true →
      r.hierarchy.isSubclass a b = r.hierarchy.isSubclass a' b') ∧
    (∀ a, r.hierarchy.isSubclass a a = false) ∧
    (r.Acyclic →
      (∀ a b, r.hierarchy.isSubclass a b = true → r.hierarchy.isSubclass b a = false) ∧
      (∀ a b c, r.hierarchy.isSubclass a b = true → r.hierarchy.isSubclass b c = true →
        r.hierarchy.isSubclass a c = true) ∧
      ∀ a b, r.hierarchy.isSameOrSubclass a b = true → r.hierarchy.isSameOrSubclass b a = true →
        r.hierarchy.isSameClass a b = true) := by
  refine ⟨r.isSameOrSubclass_preorder, r.isSameClass_equivalence, ?_, r.hierarchy.isSubclass_self,
    ?_⟩
  · intro a a' b b' ha hb
    exact isSubclass_congr (isSameClass_iff.1 ha) (isSameClass_iff.1 hb)
  · intro hacyclic
    refine ⟨?_, ?_, ?_⟩
    · intro a b hab
      exact hacyclic.isSubclass_asymm hab
    · intro a b c hab hbc
      exact hacyclic.isSubclass_trans hab hbc
    · intro a b hab hba
      exact hacyclic.isSameClass_of_below hab hba

/-- Two ways lead from a class up to a name that nobody declares. -/
def diamond : Registry :=
  [(ClassDecl.bare ⟨"Fault"⟩ .concrete).implementing ⟨"Throwable"⟩,
    (ClassDecl.bare ⟨"Retryable"⟩ .interface).extending ⟨"throwable"⟩,
    ((ClassDecl.bare ⟨"Timeout"⟩ .concrete).extending ⟨"Fault"⟩).implementing ⟨"Retryable"⟩,
    (ClassDecl.bare ⟨"Stall"⟩ .concrete).extending ⟨"Timeout"⟩].foldl addClass .empty

theorem diamond_acyclic : diamond.Acyclic :=
  acyclic_of_rank ["throwable", "fault", "retryable", "timeout", "stall"].idxOf (by decide +kernel)

/-- In the diamond, strict subtyping goes through to the name at the top, by any of its spellings
    and never back. In the circle the preorder is left: two classes are below each other. -/
theorem subtyping_orders_diamond :
    diamond.Acyclic ∧
    diamond.hierarchy.isSubclass ⟨"Stall"⟩ ⟨"THROWABLE"⟩ = true ∧
    diamond.hierarchy.isSubclass ⟨"THROWABLE"⟩ ⟨"Stall"⟩ = false ∧
    circle.hierarchy.isSameOrSubclass ⟨"Timeout"⟩ ⟨"Failure"⟩ = true ∧
    circle.hierarchy.isSubclass ⟨"Fault"⟩ ⟨"Failure"⟩ = true ∧
    circle.hierarchy.isSubclass ⟨"Failure"⟩ ⟨"Fault"⟩ = true ∧
    circle.hierarchy.isSubclass ⟨"Fault"⟩ ⟨"Fault"⟩ = false := by
  obtain ⟨-, -, hnames, -, hstrict⟩ := subtyping_orders diamond
  obtain ⟨hasymm, htrans, -⟩ := hstrict diamond_acyclic
  obtain ⟨hpreorder, -, -, hirrefl, -⟩ := subtyping_orders circle
  have hspelled : diamond.hierarchy.isSubclass ⟨"Stall"⟩ ⟨"throwable"⟩
      = diamond.hierarchy.isSubclass ⟨"Stall"⟩ ⟨"THROWABLE"⟩ :=
    hnames _ _ _ _ (by decide +kernel) (by decide +kernel)
  have htop : diamond.hierarchy.isSubclass ⟨"Stall"⟩ ⟨"THROWABLE"⟩ = true := by
    rw [← hspelled]
    exact htrans _ ⟨"Timeout"⟩ _ (by decide +kernel) (by decide +kernel)
  exact ⟨diamond_acyclic, htop, hasymm _ _ htop,
    hpreorder.trans _ ⟨"Fault"⟩ _ (by decide +kernel) (by decide +kernel), by decide +kernel,
    by decide +kernel, hirrefl _⟩

end Registry

/-! ## What a handler intercepts -/

theorem Hierarchy.interception_eq_never_iff {H : Hierarchy} {handler thrown : ClassName} :
    H.interception handler thrown = .never
      ↔ H.isSameOrSubclass thrown handler = false ∧ H.isSubclass handler thrown = false := by
  unfold interception
  cases H.isSameOrSubclass thrown handler <;> cases H.isSubclass handler thrown <;> simp

theorem Hierarchy.interception_eq_sometimes_iff {H : Hierarchy} {handler thrown : ClassName} :
    H.interception handler thrown = .sometimes
      ↔ H.interception handler thrown ≠ .always ∧ H.isSubclass handler thrown = true := by
  unfold interception
  cases H.isSameOrSubclass thrown handler <;> cases H.isSubclass handler thrown <;> simp

namespace Registry

variable {r : Registry} {handler thrown : ClassName}

/-- A handler intercepts every value of a type if whatever is below the type is below the
    handler. -/
theorem interception_always_iff_forall :
    r.hierarchy.interception handler thrown = .always
      ↔ ∀ special, r.hierarchy.isSameOrSubclass special thrown = true →
          r.hierarchy.isSameOrSubclass special handler = true := by
  rw [Hierarchy.interception_eq_always_iff]
  constructor
  · intro hbelow special hspecial
    exact isSameOrSubclass_trans hspecial hbelow
  · intro hall
    exact hall thrown (r.hierarchy.isSameOrSubclass_refl thrown)

/-- A handler intercepts nothing of a type if neither is below the other. -/
theorem interception_never_iff_unrelated :
    r.hierarchy.interception handler thrown = .never
      ↔ r.hierarchy.isSameOrSubclass thrown handler = false ∧
        r.hierarchy.isSameOrSubclass handler thrown = false := by
  rw [Hierarchy.interception_eq_never_iff]
  refine and_congr_right fun hnot => ?_
  -- the second question leaves the same class out, which the first has answered
  have hother : r.hierarchy.isSameClass handler thrown = false := by
    rw [Hierarchy.isSameOrSubclass, Bool.or_eq_false_iff] at hnot
    rw [Bool.eq_false_iff] at hnot ⊢
    exact fun hsame => hnot.1 (r.isSameClass_equivalence.symm hsame)
  rw [Hierarchy.isSameOrSubclass, hother, Bool.false_or]

/-- **What interception means.** In every registry, a handler intercepts every value of a type
    exactly if each name below the type is below the handler. It intercepts some exactly if it does
    not intercept all and is strictly below the type, and then the type, as a handler, intercepts
    every value of the handler's type. Whether nothing is intercepted does not depend on which of
    the two is the handler. Who intercepts all keeps doing so as the handler goes up and the type
    goes down. -/
theorem interception_meaning (r : Registry) (handler thrown : ClassName) :
    (r.hierarchy.interception handler thrown = .always
      ↔ ∀ special, r.hierarchy.isSameOrSubclass special thrown = true →
          r.hierarchy.isSameOrSubclass special handler = true) ∧
    (r.hierarchy.interception handler thrown = .sometimes
      ↔ r.hierarchy.interception handler thrown ≠ .always ∧
        r.hierarchy.isSubclass handler thrown = true) ∧
    (r.hierarchy.interception handler thrown = .never
      ↔ r.hierarchy.interception thrown handler = .never) ∧
    (r.hierarchy.interception handler thrown = .sometimes →
      r.hierarchy.interception thrown handler = .always) ∧
    (r.hierarchy.interception handler thrown = .always → ∀ wider special,
      r.hierarchy.isSameOrSubclass handler wider = true →
      r.hierarchy.isSameOrSubclass special thrown = true →
        r.hierarchy.interception wider special = .always) := by
  refine ⟨interception_always_iff_forall, Hierarchy.interception_eq_sometimes_iff, ?_, ?_, ?_⟩
  · rw [interception_never_iff_unrelated, interception_never_iff_unrelated, and_comm]
  · intro hsome
    have hbelow := (Hierarchy.interception_eq_sometimes_iff.1 hsome).2
    rw [Hierarchy.interception_eq_always_iff, Hierarchy.isSameOrSubclass, hbelow, Bool.or_true]
  · intro halways wider special hwider hspecial
    exact interception_always_mono halways hspecial hwider

/-- In the circle each of the two classes intercepts every value of the other. A class below them is
    intercepted by both, and intercepts some of their values. A name that nobody declares is
    intercepted by itself alone. -/
theorem interception_meaning_circle :
    circle.hierarchy.interception ⟨"Fault"⟩ ⟨"Failure"⟩ = .always ∧
    circle.hierarchy.interception ⟨"Failure"⟩ ⟨"Timeout"⟩ = .always ∧
    circle.hierarchy.interception ⟨"Timeout"⟩ ⟨"Failure"⟩ = .sometimes ∧
    circle.hierarchy.isSameOrSubclass ⟨"TIMEOUT"⟩ ⟨"Fault"⟩ = true ∧
    circle.hierarchy.interception ⟨"GHOST"⟩ ⟨"ghost"⟩ = .always ∧
    circle.hierarchy.interception ⟨"Fault"⟩ ⟨"Ghost"⟩ = .never ∧
    circle.hierarchy.interception ⟨"Ghost"⟩ ⟨"Fault"⟩ = .never := by
  obtain ⟨hall, -, -, -, hmono⟩ := interception_meaning circle ⟨"Fault"⟩ ⟨"Failure"⟩
  obtain ⟨-, hsome, -, hback, -⟩ := interception_meaning circle ⟨"Timeout"⟩ ⟨"Failure"⟩
  obtain ⟨-, -, hcomm, -, -⟩ := interception_meaning circle ⟨"Fault"⟩ ⟨"Ghost"⟩
  have halways : circle.hierarchy.interception ⟨"Fault"⟩ ⟨"Failure"⟩ = .always := by
    decide +kernel
  have hsometimes : circle.hierarchy.interception ⟨"Timeout"⟩ ⟨"Failure"⟩ = .sometimes :=
    hsome.2 ⟨by decide +kernel, by decide +kernel⟩
  have hnever : circle.hierarchy.interception ⟨"Fault"⟩ ⟨"Ghost"⟩ = .never := by
    decide +kernel
  exact ⟨halways, hback hsometimes, hsometimes, hall.1 halways _ (by decide +kernel),
    by decide +kernel, hnever, hcomm.1 hnever⟩

end Registry

end ExceptionFlow
