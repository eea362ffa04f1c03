import ExceptionFlow.Checker
import ExceptionFlow.Proofs.Lists
import ExceptionFlow.Proofs.SubtypeOrder

set_option autoImplicit false

/-! # Configured roots

The classes that a configuration names are roots: what it says of a root it says of everything below
it. Checked roots make all their subtypes checked, unchecked roots take theirs out, and an exempt
method is exempt in every subtype of its owner (`Checker.configured_roots_inherited`).

Every one of these questions is answered by a subtype search for each root. That the answers agree
with each other is transitivity of subtyping, which holds of every registry, also where classes
extend each other in a circle. How a pattern is matched does not matter here: `anyCoversBy` leaves
it open, and exemptions are the case of `Pattern.Expr.occursIn`. -/

namespace ExceptionFlow

namespace Registry

variable {r : Registry} {a b : ClassName}

theorem isSameOrSubclass_of_isSameClass (h : r.hierarchy.isSameClass a b = true) :
    r.hierarchy.isSameOrSubclass a b = true := by
  rw [Hierarchy.isSameOrSubclass, h, Bool.true_or]

theorem knows_congr (h : r.hierarchy.isSameClass a b = true) :
    r.hierarchy.knows a = r.hierarchy.knows b := by
  unfold Hierarchy.knows
  rw [find?_congr (isSameClass_iff.1 h)]

/-- An answer that goes down along subtyping is the same for all names of a class. -/
theorem eq_of_inherited (answer : ClassName → Bool)
    (hdown : ∀ special general, r.hierarchy.isSameOrSubclass special general = true →
      answer general = true → answer special = true)
    (h : r.hierarchy.isSameClass a b = true) : answer a = answer b := by
  have hback := r.isSameClass_equivalence.symm h
  rw [Bool.eq_iff_iff]
  exact ⟨hdown b a (isSameOrSubclass_of_isSameClass hback),
    hdown a b (isSameOrSubclass_of_isSameClass h)⟩

end Registry

/-! ## Checked types -/

namespace CheckedPolicy

variable {r : Registry} {special general : ClassName}

/-- The options give checked roots or, if they name none, unchecked ones. -/
theorem ofOptions_eq_ok_iff {o : Options} {policy : CheckedPolicy} :
    ofOptions o = .ok policy
      ↔ o.checkedExceptions = [] ∧
          policy = .uncheckedRoots (o.uncheckedExceptions.map .ofText) ∨
        o.checkedExceptions ≠ [] ∧ o.uncheckedExceptions = [] ∧
          policy = .checkedRoots (o.checkedExceptions.map .ofText) := by
  unfold ofOptions
  cases o.checkedExceptions with
  | nil => simp [eq_comm]
  | cons checked more =>
    cases o.uncheckedExceptions with
    | nil => simp [eq_comm]
    | cons => simp

theorem isUnder_inherited {roots : List ClassName}
    (hbelow : r.hierarchy.isSameOrSubclass special general = true)
    (h : isUnder r.hierarchy roots general = true) : isUnder r.hierarchy roots special = true := by
  obtain ⟨root, hroot, habove⟩ := List.any_eq_true.1 h
  exact List.any_eq_true.2 ⟨root, hroot, Registry.isSameOrSubclass_trans hbelow habove⟩

/-- Under checked roots, being checked goes down to the known subtypes. -/
theorem isChecked_checkedRoots_inherited {roots : List ClassName}
    (hbelow : r.hierarchy.isSameOrSubclass special general = true)
    (hknown : r.hierarchy.knows special = true)
    (h : (checkedRoots roots).isChecked r.hierarchy general = true) :
    (checkedRoots roots).isChecked r.hierarchy special = true := by
  unfold isChecked at h ⊢
  rw [Bool.and_eq_true] at h ⊢
  exact ⟨hknown, isUnder_inherited hbelow h.2⟩

/-- Under unchecked roots, being checked goes up to the known supertypes. -/
theorem isChecked_uncheckedRoots_inherited {roots : List ClassName}
    (hbelow : r.hierarchy.isSameOrSubclass special general = true)
    (hknown : r.hierarchy.knows general = true)
    (h : (uncheckedRoots roots).isChecked r.hierarchy special = true) :
    (uncheckedRoots roots).isChecked r.hierarchy general = true := by
  unfold isChecked at h ⊢
  rw [Bool.and_eq_true, Bool.not_eq_true'] at h ⊢
  refine ⟨hknown, Bool.eq_false_iff.2 ?_⟩
  intro hunder
  rw [isUnder_inherited hbelow hunder] at h
  exact Bool.noConfusion h.2

/-- What the configured roots say of a type. -/
theorem isChecked_iff_of_ofOptions {H : Hierarchy} {o : Options} {policy : CheckedPolicy}
    (h : ofOptions o = .ok policy) {type : ClassName} :
    policy.isChecked H type = true
      ↔ H.knows type = true ∧
        if o.checkedExceptions = [] then
          ∀ root ∈ o.uncheckedExceptions, H.isSameOrSubclass type (.ofText root) = false
        else ∃ root ∈ o.checkedExceptions, H.isSameOrSubclass type (.ofText root) = true := by
  unfold isChecked
  rw [Bool.and_eq_true]
  refine and_congr_right fun _ => ?_
  rcases ofOptions_eq_ok_iff.1 h with ⟨hnone, rfl⟩ | ⟨hroots, -, rfl⟩
  · rw [if_pos hnone]
    simp [isUnder]
  · rw [if_neg hroots]
    simp [isUnder]

/-- A policy treats all names of a class alike. -/
theorem isChecked_congr (policy : CheckedPolicy) {a b : ClassName}
    (h : r.hierarchy.isSameClass a b = true) :
    policy.isChecked r.hierarchy a = policy.isChecked r.hierarchy b := by
  have hunder (roots : List ClassName) :
      isUnder r.hierarchy roots a = isUnder r.hierarchy roots b :=
    Registry.eq_of_inherited (isUnder r.hierarchy roots)
      (fun _ _ hbelow => isUnder_inherited hbelow) h
  unfold isChecked
  rw [Registry.knows_congr h]
  cases policy with
  | checkedRoots roots => simp only [hunder]
  | uncheckedRoots roots => simp only [hunder]

end CheckedPolicy

/-! ## Exempt methods -/

namespace Exemption

variable {r : Registry} {reads : Pattern.Expr → String → Bool} {exemptions : List Exemption}
  {method : String}

theorem ofEntry_eq_ok_iff {entry : String × String} {e : Exemption} :
    ofEntry entry = .ok e
      ↔ ∃ pattern, Pattern.Expr.ofText? entry.2 = some pattern ∧
          e = ⟨.ofText entry.1, pattern⟩ := by
  unfold ofEntry
  cases Pattern.Expr.ofText? entry.2 with
  | none => simp
  | some pattern => simp [eq_comm]

/-- What the configured entries say of a method. -/
theorem anyCovers_iff_of_ofOptions {H : Hierarchy} {o : Options} {owner : ClassName}
    (h : ofOptions o = .ok exemptions) :
    anyCovers exemptions H owner method = true
      ↔ ∃ entry ∈ o.methodWhitelist.items, ∃ pattern,
          Pattern.Expr.ofText? entry.2 = some pattern ∧ pattern.occursIn method = true ∧
          H.isSameOrSubclass owner (.ofText entry.1) = true := by
  rw [anyCovers, List.any_eq_true]
  constructor
  · rintro ⟨e, he, hcovers⟩
    obtain ⟨entry, hentry, hread⟩ := (mem_iff_of_mapM_eq_ok h).1 he
    obtain ⟨pattern, hpattern, rfl⟩ := ofEntry_eq_ok_iff.1 hread
    exact ⟨entry, hentry, pattern, hpattern, Bool.and_eq_true_iff.1 hcovers⟩
  · rintro ⟨entry, hentry, pattern, hpattern, hcovers⟩
    have hread : ofEntry entry = .ok ⟨.ofText entry.1, pattern⟩ :=
      ofEntry_eq_ok_iff.2 ⟨pattern, hpattern, rfl⟩
    exact ⟨_, (mem_iff_of_mapM_eq_ok h).2 ⟨entry, hentry, hread⟩,
      Bool.and_eq_true_iff.2 hcovers⟩

/-- Whether some exemption covers a method if `reads` says which names match a pattern. -/
def anyCoversBy (reads : Pattern.Expr → String → Bool) (exemptions : List Exemption)
    (H : Hierarchy) (owner : ClassName) (method : String) : Bool :=
  exemptions.any fun e => reads e.pattern method && H.isSameOrSubclass owner e.owner

/-- What is exempt in a class is exempt in its subtypes. -/
theorem anyCoversBy_inherited {special general : ClassName}
    (hbelow : r.hierarchy.isSameOrSubclass special general = true)
    (h : anyCoversBy reads exemptions r.hierarchy general method = true) :
    anyCoversBy reads exemptions r.hierarchy special method = true := by
  obtain ⟨e, he, hcovers⟩ := List.any_eq_true.1 h
  rw [Bool.and_eq_true] at hcovers
  refine List.any_eq_true.2 ⟨e, he, ?_⟩
  rw [Bool.and_eq_true]
  exact ⟨hcovers.1, Registry.isSameOrSubclass_trans hbelow hcovers.2⟩

theorem anyCoversBy_congr {a b : ClassName} (h : r.hierarchy.isSameClass a b = true) :
    anyCoversBy reads exemptions r.hierarchy a method
      = anyCoversBy reads exemptions r.hierarchy b method :=
  Registry.eq_of_inherited (fun owner => anyCoversBy reads exemptions r.hierarchy owner method)
    (fun _ _ hbelow => anyCoversBy_inherited hbelow) h

end Exemption

/-! ## Configurations -/

namespace Checker

/-- A configuration is accepted if it has a policy and its patterns can be read. -/
theorem ofOptions_eq_ok_iff {H : Hierarchy} {file : String} {o : Options}
    {further : List Refinement} {K : Checker} :
    ofOptions H file o further = .ok K
      ↔ ∃ policy exemptions, CheckedPolicy.ofOptions o = .ok policy ∧
          Exemption.ofOptions o = .ok exemptions ∧
          K = ⟨H, file, o, policy, .ofOptions o, exemptions, Refinement.standard ++ further⟩ := by
  unfold ofOptions
  cases CheckedPolicy.ofOptions o with
  | error e => simp
  | ok policy =>
    cases Exemption.ofOptions o with
    | error e => simp
    | ok exemptions => simp [eq_comm]

/-- **Configured roots are inherited.** Take a registry and a configuration that is accepted. A type
    is checked if it is known and below a checked root or, if there are none, not below an unchecked
    one; a method is exempt if its name matches the pattern of a class that its owner is below. Let
    then one class be the same as or below another. With checked roots it is checked with the other,
    without them the other is checked with it, and what is exempt in the other is exempt in it,
    whatever the patterns match. All names of a class are treated alike. -/
theorem configured_roots_inherited (r : Registry) {file : String} {o : Options}
    {further : List Refinement} {K : Checker}
    (haccepted : ofOptions r.hierarchy file o further = .ok K) :
    (∀ type, K.policy.isChecked K.hierarchy type = true
      ↔ r.hierarchy.knows type = true ∧
        if o.checkedExceptions = [] then
          ∀ root ∈ o.uncheckedExceptions, r.hierarchy.isSameOrSubclass type (.ofText root) = false
        else ∃ root ∈ o.checkedExceptions,
          r.hierarchy.isSameOrSubclass type (.ofText root) = true) ∧
    (∀ owner method, K.isExempt (.method owner method) = true
      ↔ ∃ entry ∈ o.methodWhitelist.items, ∃ pattern,
          Pattern.Expr.ofText? entry.2 = some pattern ∧ pattern.occursIn method = true ∧
          r.hierarchy.isSameOrSubclass owner (.ofText entry.1) = true) ∧
    (∀ special general, r.hierarchy.isSameOrSubclass special general = true →
      (o.checkedExceptions ≠ [] → r.hierarchy.knows special = true →
        K.policy.isChecked K.hierarchy general = true →
          K.policy.isChecked K.hierarchy special = true) ∧
      (o.checkedExceptions = [] → r.hierarchy.knows general = true →
        K.policy.isChecked K.hierarchy special = true →
          K.policy.isChecked K.hierarchy general = true) ∧
      (∀ method, K.isExempt (.method general method) = true →
        K.isExempt (.method special method) = true) ∧
      ∀ reads method, Exemption.anyCoversBy reads K.exemptions K.hierarchy general method = true →
        Exemption.anyCoversBy reads K.exemptions K.hierarchy special method = true) ∧
    ∀ a b, r.hierarchy.isSameClass a b = true →
      K.policy.isChecked K.hierarchy a = K.policy.isChecked K.hierarchy b ∧
      (∀ method, K.isExempt (.method a method) = K.isExempt (.method b method)) ∧
      ∀ reads method, Exemption.anyCoversBy reads K.exemptions K.hierarchy a method
        = Exemption.anyCoversBy reads K.exemptions K.hierarchy b method := by
  obtain ⟨policy, exemptions, hpolicy, hexemptions, rfl⟩ := ofOptions_eq_ok_iff.1 haccepted
  refine ⟨?_, ?_, ?_, ?_⟩
  · intro type
    exact CheckedPolicy.isChecked_iff_of_ofOptions hpolicy
  · intro owner method
    exact Exemption.anyCovers_iff_of_ofOptions hexemptions
  · intro special general hbelow
    refine ⟨?_, ?_, ?_, ?_⟩
    · intro hroots hknown hchecked
      rcases CheckedPolicy.ofOptions_eq_ok_iff.1 hpolicy with ⟨hnone, -⟩ | ⟨-, -, rfl⟩
      · exact absurd hnone hroots
      · exact CheckedPolicy.isChecked_checkedRoots_inherited hbelow hknown hchecked
    · intro hnone hknown hchecked
      rcases CheckedPolicy.ofOptions_eq_ok_iff.1 hpolicy with ⟨-, rfl⟩ | ⟨hroots, -⟩
      · exact CheckedPolicy.isChecked_uncheckedRoots_inherited hbelow hknown hchecked
      · exact absurd hnone hroots
    · -- the checker's own answer is the case of `Pattern.Expr.occursIn`
      intro method hexempt
      exact Exemption.anyCoversBy_inherited hbelow hexempt
    · intro reads method hexempt
      exact Exemption.anyCoversBy_inherited hbelow hexempt
  · intro a b hsame
    refine ⟨policy.isChecked_congr hsame, ?_, ?_⟩
    · intro method
      exact Exemption.anyCoversBy_congr hsame
    · intro reads method
      exact Exemption.anyCoversBy_congr hsame

/-- Checked is what is below a failure, and the tests of failures are exempt. -/
def failuresChecked : Options where
  checkedExceptions := ["\\failure"]
  methodWhitelist := .ofList [("Failure", "^test")]

/-- Checked is everything but timeouts. -/
def timeoutsUnchecked : Options where
  uncheckedExceptions := ["TIMEOUT"]

/-- In the circle, the root of the failures reaches timeouts by way of faults, and so does its
    exemption. With timeouts unchecked, faults are checked still, and then failures are. -/
theorem configured_roots_inherited_circle :
    (∃ K, ofOptions Registry.circle.hierarchy "unit" failuresChecked [] = .ok K ∧
      K.policy.isChecked K.hierarchy ⟨"Failure"⟩ = true ∧
      K.policy.isChecked K.hierarchy ⟨"Timeout"⟩ = true ∧
      K.policy.isChecked K.hierarchy ⟨"Ghost"⟩ = false ∧
      K.isExempt (.method ⟨"Failure"⟩ "testRetry") = true ∧
      K.isExempt (.method ⟨"TIMEOUT"⟩ "testRetry") = true) ∧
    ∃ K, ofOptions Registry.circle.hierarchy "unit" timeoutsUnchecked [] = .ok K ∧
      K.policy.isChecked K.hierarchy ⟨"Timeout"⟩ = false ∧
      K.policy.isChecked K.hierarchy ⟨"Fault"⟩ = true ∧
      K.policy.isChecked K.hierarchy ⟨"failure"⟩ = true := by
  refine ⟨?_, ?_⟩
  · obtain ⟨K, hK⟩ := exists_of_isOk
      (x := ofOptions Registry.circle.hierarchy "unit" failuresChecked []) (by decide +kernel)
    obtain ⟨hchecked, hexempt, hinherited, hnames⟩ := configured_roots_inherited _ hK
    have hfailure : K.policy.isChecked K.hierarchy ⟨"Failure"⟩ = true :=
      (hchecked _).2 (by decide +kernel)
    obtain ⟨hdown, -, hmethods, -⟩ :=
      hinherited ⟨"Timeout"⟩ ⟨"Failure"⟩ (by decide +kernel)
    have hghost : K.policy.isChecked K.hierarchy ⟨"Ghost"⟩ = false := by
      rw [Bool.eq_false_iff]
      intro hghost
      exact absurd ((hchecked _).1 hghost).1 (by decide +kernel)
    have htests : K.isExempt (.method ⟨"Failure"⟩ "testRetry") = true :=
      (hexempt _ _).2 ⟨("Failure", "^test"), by decide +kernel,
        (Pattern.Expr.ofText? "^test").get (by decide +kernel), (Option.some_get _).symm,
        by decide +kernel, by decide +kernel⟩
    have hspelled := (hnames ⟨"Timeout"⟩ ⟨"TIMEOUT"⟩ (by decide +kernel)).2.1 "testRetry"
    exact ⟨K, hK, hfailure, hdown (by decide) (by decide +kernel) hfailure, hghost, htests,
      hspelled.symm.trans (hmethods _ htests)⟩
  · obtain ⟨K, hK⟩ := exists_of_isOk
      (x := ofOptions Registry.circle.hierarchy "unit" timeoutsUnchecked []) (by decide +kernel)
    obtain ⟨hchecked, -, hinherited, -⟩ := configured_roots_inherited _ hK
    have hfault : K.policy.isChecked K.hierarchy ⟨"Fault"⟩ = true :=
      (hchecked _).2 (by decide +kernel)
    have htimeout : K.policy.isChecked K.hierarchy ⟨"Timeout"⟩ = false := by
      rw [Bool.eq_false_iff]
      intro htimeout
      exact absurd ((hchecked _).1 htimeout) (by decide +kernel)
    obtain ⟨-, hup, -, -⟩ := hinherited ⟨"Fault"⟩ ⟨"failure"⟩ (by decide +kernel)
    exact ⟨K, hK, htimeout, hfault, hup rfl (by decide +kernel) hfault⟩

end Checker

end ExceptionFlow
