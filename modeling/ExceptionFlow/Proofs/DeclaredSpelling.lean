import ExceptionFlow.Proofs.ArgumentErrors
import ExceptionFlow.Proofs.Run
import ExceptionFlow.Proofs.UnionOperands

set_option autoImplicit false

/-! # A throw site names each class once

Sets of types tell two spellings of a class apart, and what is thrown at a place comes from many
sides: from tags, from the options, from refinements, from the names of built-in errors. That no
class is named twice at one place is due to the spelling. Whatever the source, a declared class is
inferred in the spelling of its declaration (`TypeSet.IsNormal`), so that equal classes are equal
names.

`isNormal_infer` goes through the constructs. A call is the only one in which sets are changed step
by step; what a refinement answers is normalized before the next one sees it, so that one step keeps
the spelling (`isNormal_refineBy`) and hence all of them do (`isNormal_foldl_refineBy`). Names that
are not declared stay as they are written, in as many spellings as there are; but they are not
checked, and nothing is reported about them. -/

namespace ExceptionFlow

/-! ## Sets in the declared spelling -/

/-- Normalization would change no member: those that are declared are spelled as their declarations
    spell them. -/
def TypeSet.IsNormal (H : Hierarchy) (types : TypeSet) : Prop :=
  ∀ name ∈ types, H.normalizeName name = name

namespace TypeSet.IsNormal

variable {H : Hierarchy} {s t : TypeSet} {name : ClassName}

theorem empty : IsNormal H ∅ := fun _ h => absurd h List.not_mem_nil

theorem single (h : H.normalizeName name = name) : IsNormal H (.single name) := by
  intro other hother
  rw [mem_single.1 hother, h]

theorem union (hs : s.IsNormal H) (ht : t.IsNormal H) : (s ∪ t).IsNormal H := by
  intro other hother
  rcases mem_union.1 hother with hmem | hmem
  · exact hs other hmem
  · exact ht other hmem

theorem resolve?_eq (h : s.IsNormal H) (hname : name ∈ s) (hknown : H.knows name = true) :
    H.resolve? name = some name := by
  have hfixed := h name hname
  unfold Hierarchy.normalizeName at hfixed
  cases hresolved : H.resolve? name with
  | none => simp [Hierarchy.knows, Option.map_eq_none_iff.1 hresolved] at hknown
  | some resolved =>
    rw [hresolved, Option.getD_some] at hfixed
    rw [hfixed]

/-- In a set in the declared spelling, declared names of one class are one name. -/
theorem eq_of_isSameClass {r : Registry} (h : s.IsNormal r.hierarchy) {a b : ClassName}
    (ha : a ∈ s) (hb : b ∈ s) (hknownA : r.hierarchy.knows a = true)
    (hknownB : r.hierarchy.knows b = true) (hsame : r.hierarchy.isSameClass a b = true) : a = b :=
  (Registry.resolved_eq_iff (h.resolve?_eq ha hknownA) (h.resolve?_eq hb hknownB)).2
    (Registry.isSameClass_iff.1 hsame)

end TypeSet.IsNormal

/-! ## Constructs -/

namespace ThrowModel

variable {M : ThrowModel}

theorem isNormal_collect {H : Hierarchy} {α : Type} {found : α → TypeSet} {items : List α}
    (h : ∀ i ∈ items, (found i).IsNormal H) : (collect found items).IsNormal H := by
  intro x hx
  obtain ⟨i, hi, hfound⟩ := mem_collect.1 hx
  exact h i hi x hfound

section Registry

variable {r : Registry} (hregistry : M.hierarchy = r.hierarchy)

include hregistry

theorem normalizeName_idem (name : ClassName) :
    M.hierarchy.normalizeName (M.hierarchy.normalizeName name)
      = M.hierarchy.normalizeName name := by
  rw [hregistry]
  exact r.normalizeName_normalizeName name

theorem isNormal_normalize (types : TypeSet) : (M.normalize types).IsNormal M.hierarchy := by
  intro x hx
  obtain ⟨name, -, rfl⟩ := mem_normalize.1 hx
  exact normalizeName_idem hregistry name

theorem isNormal_method? {owner : ClassName} {method : String} {types : TypeSet}
    (h : M.method? owner method = some types) : types.IsNormal M.hierarchy := by
  unfold method? at h
  split at h
  · cases h
    exact isNormal_normalize hregistry _
  · obtain ⟨found, -, rfl⟩ := Option.map_eq_some_iff.1 h
    exact isNormal_normalize hregistry _

theorem isNormal_methodTypes (owner : ClassName) (method : String) :
    (M.methodTypes owner method).IsNormal M.hierarchy := by
  unfold methodTypes
  cases h : M.method? owner method with
  | none => exact .empty
  | some types => exact isNormal_method? hregistry h

theorem isNormal_callTypes (owner : ClassName) (method fallback : String) :
    (M.callTypes owner method fallback).IsNormal M.hierarchy := by
  unfold callTypes
  split
  · rename_i types h
    exact isNormal_method? hregistry h
  · exact isNormal_methodTypes hregistry owner fallback

/-- A thrown value has declared classes only. -/
theorem isNormal_thrownTypes (value : StaticType) : (M.thrownTypes value).IsNormal M.hierarchy := by
  intro x hx
  obtain ⟨name, -, hresolved⟩ := List.mem_filterMap.1 (TypeSet.mem_ofList.1 hx)
  have hx : x = M.hierarchy.normalizeName name := by
    rw [Hierarchy.normalizeName, hresolved, Option.getD_some]
  rw [hx]
  exact normalizeName_idem hregistry name

theorem isNormal_iterationTypes (subject : StaticType) (bindsKey : Bool) :
    (M.iterationTypes subject bindsKey).IsNormal M.hierarchy := by
  refine isNormal_collect fun owner _ => isNormal_collect fun method _ => ?_
  exact isNormal_methodTypes hregistry owner method

theorem isNormal_implementedTypes (subject : StaticType) (iface method : String) :
    (M.implementedTypes subject iface method).IsNormal M.hierarchy := by
  refine isNormal_collect fun owner _ => ?_
  split
  · exact isNormal_methodTypes hregistry owner method
  · exact .empty

theorem isNormal_protocolTypes (function : String) (args : List StaticType) :
    (M.protocolTypes function args).IsNormal M.hierarchy := by
  cases args with
  | nil => exact .empty
  | cons subject rest =>
    simp only [protocolTypes]
    split
    · exact isNormal_iterationTypes hregistry subject _
    · exact isNormal_iterationTypes hregistry subject _
    · exact isNormal_iterationTypes hregistry subject _
    · exact isNormal_implementedTypes hregistry subject _ _
    · exact isNormal_implementedTypes hregistry subject _ _
    · exact .empty

/-- A refinement may answer in any spelling; its answer is normalized, or there is none and nothing
    changes. -/
theorem isNormal_refineBy {call : CallSite} {known : TypeSet} (h : known.IsNormal M.hierarchy)
    (refinement : Refinement) : (M.refineBy call known refinement).IsNormal M.hierarchy := by
  unfold refineBy
  split
  · split
    · exact isNormal_normalize hregistry _
    · exact h
  · exact h

theorem isNormal_foldl_refineBy {call : CallSite} (refinements : List Refinement) {known : TypeSet}
    (h : known.IsNormal M.hierarchy) :
    (refinements.foldl (M.refineBy call) known).IsNormal M.hierarchy := by
  induction refinements generalizing known with
  | nil => exact h
  | cons refinement rest ih => exact ih (isNormal_refineBy hregistry h refinement)

/-- **Every construct throws declared classes in their declared spelling.** -/
theorem isNormal_infer (construct : Construct) : (M.infer construct).IsNormal M.hierarchy := by
  cases construct with
  | throw value => exact isNormal_thrownTypes hregistry value
  | methodCall receiver method =>
    exact isNormal_collect fun owner _ => isNormal_callTypes hregistry owner method _
  | staticCall owner method => exact isNormal_callTypes hregistry owner method _
  | new owner => exact isNormal_methodTypes hregistry owner _
  | division divisor =>
    simp only [infer, divisionTypes]
    split
    · exact .single (normalizeName_idem hregistry _)
    · exact .empty
  | shift amount =>
    simp only [infer, shiftTypes]
    split
    · exact .single (normalizeName_idem hregistry _)
    · exact .empty
  | iteration subject bindsKey => exact isNormal_iterationTypes hregistry subject bindsKey
  | call name args =>
    have hdeclared := isNormal_normalize hregistry (M.declaredTypes (Symbol.functionKey name))
    exact (isNormal_foldl_refineBy hregistry M.refinements hdeclared).union
      (isNormal_protocolTypes hregistry _ args)

end Registry

end ThrowModel

/-! ## Reports -/

namespace Checker

variable {K : Checker}

/-- What is reported of types that nothing accepts: all of the checked ones or none, one by one. -/
theorem exists_escapes_eq (residual : Residual) (line : Nat) :
    ∃ (code : Code) (types : List ClassName),
      (code = .missingThrows ∨ code = .throwInGlobalScope) ∧
      types.Sublist (K.policy.filterChecked K.hierarchy residual.undeclared).toList ∧
      K.escapes residual line = types.map fun type => K.report line code [type] := by
  unfold escapes
  rcases residual.boundary with (_ | _) | _
  · exact ⟨_, _, .inl rfl, List.Sublist.refl _, rfl⟩
  · exact ⟨.missingThrows, [], .inl rfl, List.nil_sublist _, rfl⟩
  · by_cases hasked : K.options.reportCheckedThrowsInGlobalScope = true
    · simp only [hasked, if_true]
      exact ⟨_, _, .inr rfl, List.Sublist.refl _, rfl⟩
    · simp only [hasked]
      exact ⟨.throwInGlobalScope, [], .inr rfl, List.nil_sublist _, rfl⟩

/-- The reports at a throwing construct are about declared types that it throws, each once. -/
theorem exists_throwReports_eq (line : Nat) (frames : List Frame) (construct : Construct) :
    ∃ (code : Code) (types : List ClassName),
      (code = .missingThrows ∨ code = .throwInGlobalScope) ∧ types.Nodup ∧
      (∀ type ∈ types, type ∈ K.throwModel.infer construct ∧ K.hierarchy.knows type = true) ∧
      K.throwReports line frames construct = types.map fun type => K.report line code [type] := by
  obtain ⟨code, types, hcode, hsub, heq⟩ := exists_escapes_eq (K := K)
    ⟨(K.throwModel.infer construct).filter fun t => !accepted K.hierarchy t frames,
      Scope.boundary frames⟩ line
  refine ⟨code, types, hcode, hsub.nodup (TypeSet.nodup _), ?_, heq⟩
  intro type htype
  obtain ⟨hundeclared, hchecked⟩ := TypeSet.mem_filter.1 (TypeSet.mem_def.2 (hsub.mem htype))
  -- only a type that is known is checked
  exact ⟨(TypeSet.mem_filter.1 hundeclared).1, (Bool.and_eq_true_iff.1 hchecked).1⟩

/-- **A throw site names each class once.** In a registry, whatever is configured and whatever the
    refinements answer: a declared type that a construct throws is spelled as it is declared, and
    two of them that are different names are different classes. So the reports at a throwing
    construct, which are about such types, name pairwise different classes. -/
theorem throw_sites_name_classes_once (K : Checker) {r : Registry}
    (hregistry : K.hierarchy = r.hierarchy) (construct : Construct) :
    (∀ name ∈ K.throwModel.infer construct, K.hierarchy.knows name = true →
      K.hierarchy.resolve? name = some name) ∧
    (∀ a ∈ K.throwModel.infer construct, ∀ b ∈ K.throwModel.infer construct,
      K.hierarchy.knows a = true → K.hierarchy.knows b = true → a ≠ b →
        K.hierarchy.isSameClass a b = false) ∧
    ∀ (s : State) (line : Nat), ∃ found next,
      K.step s (.throwing construct) line = (.ok found, next) ∧
      (∀ d ∈ found, (d.code = .missingThrows ∨ d.code = .throwInGlobalScope) ∧
        ∃ name ∈ K.throwModel.infer construct, d.names = [name]) ∧
      found.Pairwise fun d e =>
        ∀ a ∈ d.names, ∀ b ∈ e.names, K.hierarchy.isSameClass a b = false := by
  have hnormal : (K.throwModel.infer construct).IsNormal K.hierarchy :=
    ThrowModel.isNormal_infer hregistry construct
  have hclasses : ∀ a ∈ K.throwModel.infer construct, ∀ b ∈ K.throwModel.infer construct,
      K.hierarchy.knows a = true → K.hierarchy.knows b = true → a ≠ b →
        K.hierarchy.isSameClass a b = false := by
    intro a ha b hb hknownA hknownB hne
    rw [hregistry] at hnormal hknownA hknownB ⊢
    exact Bool.eq_false_iff.2 fun hsame =>
      hne (hnormal.eq_of_isSameClass ha hb hknownA hknownB hsame)
  refine ⟨fun name hname hknown => hnormal.resolve?_eq hname hknown, hclasses, ?_⟩
  intro s line
  refine ⟨_, _, step_of_accepts .throws, ?_⟩
  obtain ⟨code, types, hcode, hnodup, htypes, heq⟩ :=
    exists_throwReports_eq (K := K) line s.scope.frames construct
  rw [heq]
  refine ⟨?_, ?_⟩
  · intro d hd
    obtain ⟨type, htype, rfl⟩ := List.mem_map.1 hd
    exact ⟨hcode, type, (htypes type htype).1, rfl⟩
  · refine List.pairwise_map.2 (hnodup.imp_of_mem ?_)
    intro type other htype hother hne a ha b hb
    rw [List.mem_singleton.1 ha, List.mem_singleton.1 hb]
    exact hclasses _ (htypes type htype).1 _ (htypes other hother).1 (htypes type htype).2
      (htypes other hother).2 hne

/-- Two classes. -/
def twoFailures : Registry :=
  [ClassDecl.bare ⟨"Timeout"⟩ .concrete, ClassDecl.bare ⟨"Stall"⟩ .concrete].foldl
    Registry.addClass .empty

/-- A checker that is told what a function throws, twice over and in spellings of its own. -/
def polling : Checker :=
  { small with
    hierarchy := twoFailures.hierarchy
    options := { reportCheckedThrowsInGlobalScope := true }
    defaults := ⟨∅, .ofList [⟨"poll", .ofTexts ["TIMEOUT", "\\timeout", "Ghost"]⟩]⟩
    refinements := [.ofRule ⟨["poll"], .add, .ofTexts ["stall", "tIMEOUT", "ghost"], none⟩] }

/-- Of four spellings of one class one is left. A name that is not declared stays in both of its
    spellings, and is not reported. -/
theorem throw_sites_name_classes_once_polling :
    (polling.throwModel.infer (.call "Poll" [])).toList
      = [⟨"Timeout"⟩, ⟨"Ghost"⟩, ⟨"Stall"⟩, ⟨"ghost"⟩] ∧
    polling.hierarchy.resolve? ⟨"Stall"⟩ = some ⟨"Stall"⟩ ∧
    polling.hierarchy.isSameClass ⟨"Timeout"⟩ ⟨"Stall"⟩ = false ∧
    polling.hierarchy.isSameClass ⟨"Ghost"⟩ ⟨"ghost"⟩ = true ∧
    ∃ found, (polling.step .start (.throwing (.call "Poll" [])) 7).1 = .ok found ∧
      found = [polling.report 7 .throwInGlobalScope [⟨"Timeout"⟩],
        polling.report 7 .throwInGlobalScope [⟨"Stall"⟩]] ∧
      found.Pairwise fun d e =>
        ∀ a ∈ d.names, ∀ b ∈ e.names, polling.hierarchy.isSameClass a b = false := by
  have htypes : (polling.throwModel.infer (.call "Poll" [])).toList
      = [⟨"Timeout"⟩, ⟨"Ghost"⟩, ⟨"Stall"⟩, ⟨"ghost"⟩] := by
    decide +kernel
  have htimeout : ⟨"Timeout"⟩ ∈ polling.throwModel.infer (.call "Poll" []) := by
    rw [TypeSet.mem_def, htypes]
    simp
  have hstall : ⟨"Stall"⟩ ∈ polling.throwModel.infer (.call "Poll" []) := by
    rw [TypeSet.mem_def, htypes]
    simp
  obtain ⟨hspelled, hclasses, hreports⟩ :=
    throw_sites_name_classes_once polling (r := twoFailures) rfl (.call "Poll" [])
  obtain ⟨found, next, hstep, -, hpairwise⟩ := hreports .start 7
  refine ⟨htypes, hspelled _ hstall (by decide +kernel),
    hclasses _ htimeout _ hstall (by decide +kernel) (by decide +kernel) (by decide),
    by decide +kernel, found, by rw [hstep], ?_, hpairwise⟩
  have hfound : (polling.step .start (.throwing (.call "Poll" [])) 7).1.diagnostics
      = [polling.report 7 .throwInGlobalScope [⟨"Timeout"⟩],
        polling.report 7 .throwInGlobalScope [⟨"Stall"⟩]] := by
    decide +kernel
  rw [hstep] at hfound
  exact hfound

end Checker

end ExceptionFlow
