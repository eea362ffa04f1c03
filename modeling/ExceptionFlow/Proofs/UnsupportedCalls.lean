import ExceptionFlow.Proofs.DeclaredSpelling

set_option autoImplicit false

/-! # Calls that a refinement cannot handle

The refinements of a call see each other's answers: each one takes what the ones before it left and
may add types, replace them or remove them. One that does not support the function, or cannot handle
the arguments, is passed over. As long as its failure is a matter of the call alone
(`Refinement.FailsByCall`), passing it over is the same as never having had it: one step leaves the
types as they are (`refineBy_of_not_answers`), so all steps are those of the refinements that answer
(`foldl_refineBy_filter`).

What the methods of the first argument throw is added behind the refinements and out of their reach.
The standard refinements remove nothing either (`Refinement.OnlyAdds`): they keep every declared
type, because in a registry its normalized spelling is normalized to itself. -/

namespace ExceptionFlow

namespace Refinement

/-! ## Failures -/

/-- Whether the refinement handles a call does not depend on the types that are known. -/
def FailsByCall (refinement : Refinement) (call : CallSite) : Prop :=
  ∀ known other, (refinement.refine call known).isOk = (refinement.refine call other).isOk

/-- The refinement supports the function and handles the call. -/
def answers (refinement : Refinement) (call : CallSite) : Bool :=
  refinement.supports call.name && (refinement.refine call ∅).isOk

theorem failsByCall_integerDivision (call : CallSite) : integerDivision.FailsByCall call := by
  intro known other
  simp only [integerDivision]
  rcases call.arg 0 with _ | dividend
  · rfl
  · rcases call.arg 1 with _ | divisor
    · rfl
    · rfl

theorem failsByCall_json (call : CallSite) : json.FailsByCall call := by
  intro known other
  simp only [json]
  by_cases hargs : call.args.isEmpty = true
  · simp only [hargs, if_true]
  · simp only [hargs]
    rcases call.args[flagsPosition call.name]? with _ | flags
    · rfl
    · rfl

theorem failsByCall_of_mem_standard {refinement : Refinement} (h : refinement ∈ standard)
    (call : CallSite) : refinement.FailsByCall call := by
  rcases List.mem_pair.1 h with rfl | rfl
  · exact failsByCall_integerDivision call
  · exact failsByCall_json call

theorem failsByCall_ofRule (rule : Rule) (call : CallSite) : (ofRule rule).FailsByCall call := by
  intro known other
  simp only [ofRule]
  cases rule.requires with
  | none => rfl
  | some position =>
    show ((call.arg position).map _).isOk = ((call.arg position).map _).isOk
    cases call.arg position with
    | error e => rfl
    | ok arg => rfl

/-! ## Refinements that remove nothing -/

/-- The answers of the refinement keep what is known. -/
def OnlyAdds (refinement : Refinement) : Prop :=
  ∀ call known refined, refinement.refine call known = .ok refined →
    ∀ type ∈ known, type ∈ refined

theorem mem_insertIf_of_mem {types : TypeSet} {type : ClassName} (h : type ∈ types)
    (condition : Bool) (name : ClassName) : type ∈ insertIf types condition name := by
  cases condition with
  | false => exact h
  | true => exact TypeSet.mem_insert.2 (.inl h)

theorem onlyAdds_integerDivision : integerDivision.OnlyAdds := by
  intro call known refined hrefined type htype
  simp only [integerDivision] at hrefined
  split at hrefined
  · cases hrefined
    exact mem_insertIf_of_mem (mem_insertIf_of_mem htype _ _) _ _
  · cases hrefined
  · cases hrefined

theorem onlyAdds_json : json.OnlyAdds := by
  intro call known refined hrefined type htype
  simp only [json] at hrefined
  split at hrefined
  · cases hrefined
  · split at hrefined
    · cases hrefined
      exact htype
    · cases hrefined
      exact mem_insertIf_of_mem htype _ _

theorem onlyAdds_of_mem_standard {refinement : Refinement} (h : refinement ∈ standard) :
    refinement.OnlyAdds := by
  rcases List.mem_pair.1 h with rfl | rfl
  · exact onlyAdds_integerDivision
  · exact onlyAdds_json

end Refinement

namespace ThrowModel

variable {M : ThrowModel} {call : CallSite} {known : TypeSet}

/-! ## One refinement after the other -/

theorem refineBy_of_not_answers {refinement : Refinement} (hfails : refinement.FailsByCall call)
    (h : refinement.answers call = false) : M.refineBy call known refinement = known := by
  unfold refineBy
  split
  · rename_i hsupports
    -- it fails on the empty set, and so on whatever is known
    rw [Refinement.answers, hsupports, Bool.true_and, hfails ∅ known] at h
    split
    · rename_i refined hrefined
      rw [hrefined] at h
      cases h
    · rfl
  · rfl

theorem foldl_refineBy_filter (refinements : List Refinement)
    (hfails : ∀ refinement ∈ refinements, refinement.FailsByCall call) :
    refinements.foldl (M.refineBy call) known
      = (refinements.filter (·.answers call)).foldl (M.refineBy call) known := by
  induction refinements generalizing known with
  | nil => rfl
  | cons refinement rest ih =>
    obtain ⟨hfirst, hrest⟩ := List.forall_mem_cons.1 hfails
    cases h : refinement.answers call with
    | true =>
      simp only [List.filter_cons, h, if_true, List.foldl_cons]
      exact ih hrest
    | false =>
      simp only [List.filter_cons, h, List.foldl_cons, refineBy_of_not_answers hfirst h]
      exact ih hrest

theorem mem_refineBy_of_onlyAdds {refinement : Refinement} (hadds : refinement.OnlyAdds)
    {type : ClassName} (hnormal : M.hierarchy.normalizeName type = type) (h : type ∈ known) :
    type ∈ M.refineBy call known refinement := by
  unfold refineBy
  split
  · split
    · rename_i refined hrefined
      exact mem_normalize.2 ⟨type, hadds call known refined hrefined type h, hnormal⟩
    · exact h
  · exact h

theorem mem_foldl_refineBy_of_onlyAdds (refinements : List Refinement)
    (hadds : ∀ refinement ∈ refinements, refinement.OnlyAdds) {type : ClassName}
    (hnormal : M.hierarchy.normalizeName type = type) (h : type ∈ known) :
    type ∈ refinements.foldl (M.refineBy call) known := by
  induction refinements generalizing known with
  | nil => exact h
  | cons refinement rest ih =>
    obtain ⟨hfirst, hrest⟩ := List.forall_mem_cons.1 hadds
    exact ih hrest (mem_refineBy_of_onlyAdds hfirst hnormal h)

/-! ## Calls -/

theorem infer_call_eq (M : ThrowModel) (name : String) (args : List StaticType) :
    M.infer (.call name args)
      = M.refinements.foldl (M.refineBy ⟨Symbol.functionKey name, args⟩) (M.declaredFor name)
        ∪ M.protocolTypes (Symbol.functionKey name) args := rfl

/-- The model without the refinements that do not answer a call. -/
def answering (M : ThrowModel) (call : CallSite) : ThrowModel :=
  { M with refinements := M.refinements.filter (·.answers call) }

/-- Protocols have nothing to do with refinements. -/
theorem protocolTypes_answering (M : ThrowModel) (call : CallSite) (function : String)
    (args : List StaticType) :
    (M.answering call).protocolTypes function args = M.protocolTypes function args := by
  unfold protocolTypes
  rfl

theorem infer_answering (M : ThrowModel) (name : String) (args : List StaticType) :
    (M.answering ⟨Symbol.functionKey name, args⟩).infer (.call name args)
      = (M.refinements.filter (·.answers ⟨Symbol.functionKey name, args⟩)).foldl
          (M.refineBy ⟨Symbol.functionKey name, args⟩) (M.declaredFor name)
        ∪ M.protocolTypes (Symbol.functionKey name) args := by
  rw [infer_call_eq, protocolTypes_answering]
  rfl

/-- **Unsupported calls are recovered from, and protocol types stay.** Let the refinements fail by
    the call alone, if they fail. Then what is inferred for a call is what is inferred without those
    that do not support the function or cannot handle the call; and if this leaves none, it is the
    declared types followed by those of the methods of the first argument. The latter are inferred
    whatever the refinements answer. In a registry with the standard refinements, the declared types
    are inferred too. -/
theorem unsupported_calls_recovered (M : ThrowModel) (name : String) (args : List StaticType) :
    ((∀ refinement ∈ M.refinements, refinement.FailsByCall ⟨Symbol.functionKey name, args⟩) →
      M.infer (.call name args)
        = (M.answering ⟨Symbol.functionKey name, args⟩).infer (.call name args) ∧
      ((∀ refinement ∈ M.refinements,
          refinement.answers ⟨Symbol.functionKey name, args⟩ = false) →
        M.infer (.call name args)
          = M.declaredFor name ∪ M.protocolTypes (Symbol.functionKey name) args)) ∧
    (∀ type ∈ M.protocolTypes (Symbol.functionKey name) args, type ∈ M.infer (.call name args)) ∧
    ∀ r : Registry, M.hierarchy = r.hierarchy → M.refinements = Refinement.standard →
      ∀ type ∈ M.declaredFor name, type ∈ M.infer (.call name args) := by
  refine ⟨?_, ?_, ?_⟩
  · intro hfails
    have hdeleted : M.infer (.call name args)
        = (M.answering ⟨Symbol.functionKey name, args⟩).infer (.call name args) := by
      rw [infer_call_eq, infer_answering, foldl_refineBy_filter M.refinements hfails]
    refine ⟨hdeleted, ?_⟩
    intro hnone
    have hempty : M.refinements.filter (·.answers ⟨Symbol.functionKey name, args⟩) = [] :=
      List.filter_eq_nil_iff.2 fun refinement hmem => Bool.eq_false_iff.1 (hnone refinement hmem)
    rw [hdeleted, infer_answering, hempty, List.foldl_nil]
  · intro type htype
    rw [infer_call_eq]
    exact TypeSet.mem_union.2 (.inr htype)
  · intro r hregistry hstandard type htype
    -- every refinement's answer is normalized, which must not lose what it kept
    have hnormal : M.hierarchy.normalizeName type = type :=
      isNormal_normalize hregistry _ type htype
    have hadds : ∀ refinement ∈ M.refinements, refinement.OnlyAdds := by
      rw [hstandard]
      exact fun _ hmem => Refinement.onlyAdds_of_mem_standard hmem
    rw [infer_call_eq]
    exact TypeSet.mem_union.2
      (.inl (mem_foldl_refineBy_of_onlyAdds M.refinements hadds hnormal htype))

/-- A class that says itself how it is encoded, which may fail. -/
def reports : Registry :=
  Registry.empty.addClass (((ClassDecl.bare ⟨"Report"⟩ .concrete).implementing
    ⟨"JsonSerializable"⟩).declaring
      { name := "jsonSerialize", throws := some (.ofTexts ["RenderError"]) })

/-- A rule that needs a third argument. -/
def nesting : Refinement := .ofRule ⟨["json_encode"], .replace, .ofTexts ["DepthError"], some 2⟩

/-- A rule that takes types back. -/
def silencing : Refinement :=
  .ofRule ⟨["json_encode"], .remove, .ofTexts ["RenderError", "Obsolete"], none⟩

/-- What is inferred for reports, with configured types for encoding. -/
def encoding (refinements : List Refinement) : ThrowModel :=
  ⟨reports.hierarchy, ⟨∅, .ofList [⟨"json_encode", .ofTexts ["EncodeError", "Obsolete"]⟩]⟩,
    refinements⟩

/-- The encoding of a report. -/
def encodeReport : Construct := .call "\\JSON_Encode" [.object ⟨"report"⟩]

/-- The call that refinements see. -/
def encodeReportSite : CallSite :=
  ⟨Symbol.functionKey "\\JSON_Encode", [.object ⟨"report"⟩]⟩

/-- Of three refinements one does not support the function and one lacks an argument. The third is
    left and removes what it can, which is not what the report itself throws. Without the third
    nothing is removed; nor is it by the standard refinements. -/
theorem unsupported_calls_recovered_encodeReport :
    (encoding [.integerDivision, nesting, silencing]).infer encodeReport
      = (encoding [silencing]).infer encodeReport ∧
    ((encoding [silencing]).infer encodeReport).toList = [⟨"EncodeError"⟩, ⟨"RenderError"⟩] ∧
    (encoding [nesting]).infer encodeReport
      = .ofTexts ["EncodeError", "Obsolete"] ∪ .single ⟨"RenderError"⟩ ∧
    ⟨"RenderError"⟩ ∈ (encoding [silencing]).infer encodeReport ∧
    ⟨"Obsolete"⟩ ∈ (encoding Refinement.standard).infer encodeReport := by
  have hunsupported : Refinement.integerDivision.answers encodeReportSite = false := by
    decide +kernel
  have hlacking : nesting.answers encodeReportSite = false := by decide +kernel
  have hanswers : silencing.answers encodeReportSite = true := by decide +kernel
  have hfails : ∀ x ∈ [Refinement.integerDivision, nesting, silencing],
      x.FailsByCall encodeReportSite := by
    intro x hx
    rcases List.mem_cons.1 hx with rfl | hrule
    · exact Refinement.failsByCall_of_mem_standard List.mem_cons_self _
    · rcases List.mem_pair.1 hrule with rfl | rfl
      · exact Refinement.failsByCall_ofRule _ _
      · exact Refinement.failsByCall_ofRule _ _
  have hleft : (encoding [.integerDivision, nesting, silencing]).answering encodeReportSite
      = encoding [silencing] := by
    simp [answering, encoding, List.filter, hunsupported, hlacking, hanswers]
  obtain ⟨hdeleted, -, -⟩ := unsupported_calls_recovered
    (encoding [.integerDivision, nesting, silencing]) "\\JSON_Encode" [.object ⟨"report"⟩]
  obtain ⟨hnone, -, -⟩ := unsupported_calls_recovered
    (encoding [nesting]) "\\JSON_Encode" [.object ⟨"report"⟩]
  obtain ⟨-, hprotocol, -⟩ := unsupported_calls_recovered
    (encoding [silencing]) "\\JSON_Encode" [.object ⟨"report"⟩]
  obtain ⟨-, -, hstandard⟩ := unsupported_calls_recovered
    (encoding Refinement.standard) "\\JSON_Encode" [.object ⟨"report"⟩]
  refine ⟨?_, by decide +kernel, ?_, hprotocol _ (TypeSet.contains_iff.1 (by decide +kernel)),
    hstandard reports rfl rfl _ (TypeSet.contains_iff.1 (by decide +kernel))⟩
  · rw [← hleft]
    exact (hdeleted hfails).1
  · have honly : ∀ x ∈ [nesting], x.FailsByCall encodeReportSite :=
      List.forall_mem_singleton.2 (Refinement.failsByCall_ofRule _ _)
    have hsilent : ∀ x ∈ [nesting], x.answers encodeReportSite = false :=
      List.forall_mem_singleton.2 hlacking
    refine ((hnone honly).2 hsilent).trans (TypeSet.ext ?_)
    decide +kernel

end ThrowModel

end ExceptionFlow
