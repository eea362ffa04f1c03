import Mathlib.Data.List.DropRight
import ExceptionFlow.Checker
import ExceptionFlow.Proofs.NameCase

set_option autoImplicit false

/-! # Functions by their written names

Functions are registered and configured by written names, and both tables are searched by the key of
the name that is asked for. A call asks for the key of its written name, so that on its way the key
is taken twice. This finds what is stated for the written name as long as a key is its own key; and
it is, but for names with a blank behind their leading separators (`Symbol.isIndented`). Such a
blank is left behind when the separators go, and goes the second time.

`ThrowModel.calls_find_stated_iff` says that these names are the only ones, and that every one of
them is missed somewhere. -/

namespace ExceptionFlow

/-! ## Keys of keys -/

namespace Text

theorem dropWhile_isBlank_eq_self_iff {cs : List Char} :
    cs.dropWhile isBlank = cs ↔ cs.head?.any isBlank = false := by
  cases cs with
  | nil => simp
  | cons c rest =>
    cases hc : isBlank c with
    | false => simp [hc]
    | true =>
      have hshort : (rest.dropWhile isBlank).length ≤ rest.length :=
        (List.dropWhile_suffix isBlank).length_le
      have hne : rest.dropWhile isBlank ≠ c :: rest := by
        intro h
        rw [h, List.length_cons] at hshort
        omega
      simpa [hc] using hne

theorem trim_isPrefix_dropWhile (cs : List Char) : trim cs <+: cs.dropWhile isBlank :=
  List.rdropWhile_prefix isBlank (cs.dropWhile isBlank)

theorem not_isBlank_getLast_trim {cs : List Char} (hne : trim cs ≠ []) :
    ¬ isBlank ((trim cs).getLast hne) = true :=
  List.rdropWhile_last_not isBlank (cs.dropWhile isBlank) hne

end Text

namespace Symbol

/-- Whether the canonical name begins with a blank, which stands behind the leading separators of
    the written one. -/
def isIndented (written : String) : Bool := (canonical written).toList.head?.any Text.isBlank

variable {s : String}

/-- A canonical name never ends with a blank. -/
theorem rdropWhile_canonical (s : String) :
    (canonical s).toList.rdropWhile Text.isBlank = (canonical s).toList := by
  rw [canonical, String.toList_ofList]
  refine List.rdropWhile_eq_self_iff.2 ?_
  intro hne
  have hsuffix := List.dropWhile_suffix (fun c => c == '\\') (l := Text.trim s.toList)
  rw [hsuffix.getLast hne]
  exact Text.not_isBlank_getLast_trim (hsuffix.ne_nil hne)

/-- A canonical name is its own canonical name, unless a blank is to be taken off. -/
theorem canonical_canonical_iff : canonical (canonical s) = canonical s ↔ isIndented s = false := by
  rw [isIndented, ← Text.dropWhile_isBlank_eq_self_iff]
  constructor
  · intro h
    -- no step makes a text longer, so in a text that stays the same no step removes anything
    have hseparators : (canonical (canonical s)).toList <:+ Text.trim (canonical s).toList := by
      rw [canonical, String.toList_ofList]
      exact List.dropWhile_suffix _
    rw [h] at hseparators
    have hlength := Nat.le_trans hseparators.length_le
      (Text.trim_isPrefix_dropWhile (canonical s).toList).length_le
    have hblanks := List.dropWhile_suffix Text.isBlank (l := (canonical s).toList)
    exact hblanks.eq_of_length_le hlength
  · intro hfront
    have htrim : Text.trim (canonical s).toList = (canonical s).toList := by
      rw [Text.trim, hfront]
      exact rdropWhile_canonical s
    rw [canonical, htrim, canonical, String.toList_ofList, List.dropWhile_idempotent]

theorem caseless_caseless (s : String) : caseless (caseless s) = caseless s := by
  have hlower : Char.toLower ∘ Char.toLower = Char.toLower := by
    funext c
    exact (Text.Recased.toLower_eq (.inr (.inl rfl))).symm
  rw [caseless, caseless, String.toList_ofList, List.map_map, hlower]

theorem functionKey_functionKey (s : String) :
    functionKey (functionKey s) = canonical (canonical (caseless s)) := by
  have hcase : caseless (functionKey s) = canonical (caseless s) := by
    rw [functionKey, caseless_caseless, ← functionKey, functionKey_eq_canonical]
  rw [functionKey_eq_canonical (functionKey s), hcase]

theorem isIndented_eq_functionKey (s : String) :
    isIndented s = (functionKey s).toList.head?.any Text.isBlank := by
  have hblank (c : Char) : Text.isBlank c.toLower = Text.isBlank c :=
    congrFun (Text.test_toLower Text.isBlank_of_isAlpha) c
  simp only [functionKey, caseless, String.toList_ofList, List.head?_map, Option.any_map, hblank,
    isIndented]

/-- A key is its own key, unless a blank is to be taken off. -/
theorem functionKey_functionKey_iff :
    functionKey (functionKey s) = functionKey s ↔ isIndented s = false := by
  have hcaseless : isIndented (caseless s) = isIndented s := by
    rw [isIndented_eq_functionKey s, functionKey_eq_canonical, isIndented]
  rw [functionKey_functionKey, functionKey_eq_canonical, canonical_canonical_iff, hcaseless]

end Symbol

/-! ## Calls -/

namespace ThrowModel

/-- The functions that call methods of their first argument. -/
def protocolFunctions : List String :=
  ["iterator_to_array", "iterator_count", "iterator_apply", "count", "json_encode"]

variable {M : ThrowModel} {name : String} {args : List StaticType}

theorem protocolTypes_of_not_mem {function : String} (h : function ∉ protocolFunctions) :
    M.protocolTypes function args = ∅ := by
  unfold protocolTypes
  cases args with
  | nil => rfl
  | cons subject rest => split <;> simp_all [protocolFunctions]

theorem foldl_refineBy_of_unsupported {call : CallSite} {known : TypeSet}
    {refinements : List Refinement} (h : ∀ x ∈ refinements, x.supports call.name = false) :
    refinements.foldl (M.refineBy call) known = known := by
  induction refinements with
  | nil => rfl
  | cons x rest ih =>
    obtain ⟨hfirst, hrest⟩ := List.forall_mem_cons.1 h
    have hkept : M.refineBy call known x = known := by simp [refineBy, hfirst]
    rw [List.foldl_cons, hkept, ih hrest]

/-- Of a call by this name nothing counts but the name: no refinement supports it, and it calls no
    methods of its argument. -/
def CountsByName (refinements : List Refinement) (name : String) : Prop :=
  (∀ x ∈ refinements, x.supports (Symbol.functionKey name) = false) ∧
    Symbol.functionKey name ∉ protocolFunctions

instance (refinements : List Refinement) (name : String) :
    Decidable (CountsByName refinements name) :=
  inferInstanceAs (Decidable (_ ∧ _))

theorem infer_call_of_countsByName (h : CountsByName M.refinements name) :
    M.infer (.call name args) = M.normalize (M.declaredTypes (Symbol.functionKey name)) := by
  have hrefined (known : TypeSet) :
      M.refinements.foldl (M.refineBy ⟨Symbol.functionKey name, args⟩) known = known :=
    foldl_refineBy_of_unsupported h.1
  simp only [infer, functionTypes, hrefined, protocolTypes_of_not_mem h.2]
  rfl

theorem countsByName_of_isIndented (h : Symbol.isIndented name = true) : CountsByName [] name := by
  have hnames : ∀ function ∈ protocolFunctions,
      ¬ function.toList.head?.any Text.isBlank = true := by
    decide +kernel
  refine ⟨fun _ hx => absurd hx List.not_mem_nil, ?_⟩
  intro hmem
  rw [Symbol.isIndented_eq_functionKey] at h
  exact hnames _ hmem h

/-- What is inferred in a registry, with options and refinements. -/
def ofOptions (r : Registry) (o : Options) (refinements : List Refinement) : ThrowModel :=
  ⟨r.hierarchy, .ofOptions o, refinements⟩

/-- The types that are stated under a written name: the configured ones, or else those that are
    registered. -/
def stated (r : Registry) (o : Options) (name : String) : TypeSet :=
  match (Defaults.ofOptions o).function? name with
  | some types => types
  | none => ((r.function? name).map FunctionDecl.throwTypes).getD ∅

variable {r : Registry} {o : Options} {refinements : List Refinement}

theorem declaredTypes_ofOptions :
    (ofOptions r o refinements).declaredTypes name = stated r o name := by
  have hdefaults : (ofOptions r o refinements).defaults = .ofOptions o := rfl
  have hregistered : (ofOptions r o refinements).hierarchy.findFunction? = r.function? := rfl
  rw [declaredTypes, stated, hdefaults, hregistered]
  cases (Defaults.ofOptions o).function? name with
  | some types => rfl
  | none => cases r.function? name <;> rfl

/-- Both tables are searched by the key. -/
theorem stated_congr {other : String} (h : Symbol.functionKey name = Symbol.functionKey other) :
    stated r o name = stated r o other := by
  simp only [stated, Defaults.function?, Registry.function?, h]

end ThrowModel

/-! ## Names that are missed -/

/-- The registry of one function. -/
def Registry.ofFunction (name : String) (throws : TypeSet) : Registry :=
  Registry.empty.addFunction ⟨name, some throws⟩

/-- The options that configure one function. -/
def Options.ofFunction (name : String) (types : List String) : Options where
  functionThrowTypeDeclarations := .ofList [(name, types)]

/-- A checker that knows of one function what is configured for it. -/
def Checker.ofFunction (name : String) (types : List String) (refinements : List Refinement) :
    Checker where
  hierarchy := Registry.empty.hierarchy
  file := "unit"
  options := .ofFunction name types
  policy := .default
  defaults := .ofOptions (.ofFunction name types)
  exemptions := []
  refinements := refinements

theorem Defaults.function?_ofFunction {name other : String} {types : List String} :
    (Defaults.ofOptions (.ofFunction name types)).function? other
      = if Symbol.functionKey name = Symbol.functionKey other then some (.ofTexts types)
        else none := by
  have hfunctions : (Defaults.ofOptions (.ofFunction name types)).functions
      = Catalog.empty.put ⟨Symbol.functionKey name, .ofTexts types⟩ := rfl
  rw [function?, hfunctions, Catalog.get?_put, Catalog.get?_empty]
  by_cases h : Symbol.functionKey name = Symbol.functionKey other
  · rw [if_pos h, if_pos h]
    rfl
  · rw [if_neg h, if_neg h]
    rfl

namespace ThrowModel

variable {name other : String} {throws : TypeSet}

theorem stated_ofFunction :
    stated (.ofFunction name throws) {} other
      = if Symbol.functionKey name = Symbol.functionKey other then throws else ∅ := by
  have hdefaults : (Defaults.ofOptions {}).function? other = none := rfl
  have hnone : Registry.empty.functions.get? (Symbol.functionKey other) = none :=
    Catalog.get?_empty _
  rw [stated, hdefaults, Registry.function?, Registry.ofFunction, Registry.addFunction,
    Catalog.get?_put, FunctionDecl.key, hnone]
  by_cases h : Symbol.functionKey name = Symbol.functionKey other
  · rw [if_pos h, if_pos h]
    rfl
  · rw [if_neg h, if_neg h]
    rfl

theorem normalize_empty_ne_single {M : ThrowModel} {name : ClassName} :
    M.normalize ∅ ≠ M.normalize (.single name) := by
  intro he
  have hmem : name ∈ TypeSet.single name := TypeSet.mem_single.2 rfl
  obtain ⟨_, hnone, -⟩ := mem_normalize.1 (he ▸ mem_normalize.2 ⟨_, hmem, rfl⟩)
  exact absurd hnone List.not_mem_nil

theorem functionKey_ne_of_isIndented (h : Symbol.isIndented name = true) :
    Symbol.functionKey name ≠ Symbol.functionKey (Symbol.functionKey name) := by
  intro he
  rw [Symbol.functionKey_functionKey_iff.1 he.symm] at h
  cases h

/-- A call of a function with a blank behind its separators does not find the function that is
    registered under this very text. -/
theorem exists_missed (h : Symbol.isIndented name = true) :
    ∃ (r : Registry) (o : Options), (ofOptions r o []).infer (.call name [])
      ≠ (ofOptions r o []).normalize (stated r o name) := by
  refine ⟨.ofFunction name (.single ⟨"Error"⟩), {}, ?_⟩
  rw [infer_call_of_countsByName (countsByName_of_isIndented h), declaredTypes_ofOptions,
    stated_ofFunction, if_neg (functionKey_ne_of_isIndented h), stated_ofFunction, if_pos rfl]
  exact normalize_empty_ne_single

/-- Nor does it find what is configured under this text. -/
theorem infer_call_ofFunction_ne (h : Symbol.isIndented name = true) :
    (Checker.ofFunction name ["Error"] []).throwModel.infer (.call name [])
      ≠ (Checker.ofFunction name ["Error"] []).throwModel.normalize (.ofTexts ["Error"]) := by
  have hmodel : (Checker.ofFunction name ["Error"] []).throwModel
      = ofOptions Registry.empty (.ofFunction name ["Error"]) [] := rfl
  have hnone : Registry.empty.function? (Symbol.functionKey name) = none := Catalog.get?_empty _
  rw [hmodel, infer_call_of_countsByName (countsByName_of_isIndented h), declaredTypes_ofOptions,
    stated, Defaults.function?_ofFunction, if_neg (functionKey_ne_of_isIndented h), hnone]
  exact normalize_empty_ne_single

/-- **Which calls find what is stated under their text.** A call of which nothing counts but the
    name throws what is stated under the key of its text, taken as a text itself. In all registries
    and with all options this is what is stated under the text, if no blank stands behind its
    leading separators, and only then. Under the same condition a call finds what is configured
    under its text as the check of the function itself does. -/
theorem calls_find_stated_iff (name : String) :
    (∀ (r : Registry) (o : Options) (refinements : List Refinement) (args : List StaticType),
      CountsByName refinements name →
      (ofOptions r o refinements).infer (.call name args)
        = (ofOptions r o refinements).normalize (stated r o (Symbol.functionKey name))) ∧
    ((∀ (r : Registry) (o : Options) (refinements : List Refinement) (args : List StaticType),
      CountsByName refinements name →
      (ofOptions r o refinements).infer (.call name args)
        = (ofOptions r o refinements).normalize (stated r o name))
      ↔ Symbol.isIndented name = false) ∧
    ((∀ (K : Checker) (o : Options) (args : List StaticType), K.defaults = .ofOptions o →
      CountsByName K.refinements name → (K.defaults.function? name).isSome = true →
      K.throwModel.infer (.call name args)
        = K.throwModel.normalize (K.ownDefaults (.function name)))
      ↔ Symbol.isIndented name = false) := by
  have hcall (r : Registry) (o : Options) (refinements : List Refinement) (args : List StaticType)
      (h : CountsByName refinements name) :
      (ofOptions r o refinements).infer (.call name args)
        = (ofOptions r o refinements).normalize (stated r o (Symbol.functionKey name)) := by
    rw [infer_call_of_countsByName h, declaredTypes_ofOptions]
  refine ⟨hcall, ⟨?_, ?_⟩, ?_, ?_⟩
  · intro hfinds
    by_contra hindented
    rw [Bool.not_eq_false] at hindented
    obtain ⟨r, o, hmissed⟩ := exists_missed hindented
    exact hmissed (hfinds r o [] [] (countsByName_of_isIndented hindented))
  · intro hflush r o refinements args h
    rw [hcall r o refinements args h, stated_congr (Symbol.functionKey_functionKey_iff.2 hflush)]
  · intro hfinds
    by_contra hindented
    rw [Bool.not_eq_false] at hindented
    have hown : (Checker.ofFunction name ["Error"] []).defaults.function? name
        = some (.ofTexts ["Error"]) := Defaults.function?_ofFunction.trans (if_pos rfl)
    have hfound := hfinds (.ofFunction name ["Error"] []) (.ofFunction name ["Error"]) [] rfl
      (countsByName_of_isIndented hindented) (by rw [hown]; rfl)
    rw [Checker.ownDefaults, hown] at hfound
    exact infer_call_ofFunction_ne hindented hfound
  · intro hflush K o args _ h hsome
    obtain ⟨types, htypes⟩ := Option.isSome_iff_exists.1 hsome
    have hkey : K.throwModel.defaults.function? (Symbol.functionKey name) = some types := by
      rw [← htypes, Defaults.function?, Defaults.function?,
        Symbol.functionKey_functionKey_iff.2 hflush]
      rfl
    rw [infer_call_of_countsByName h, declaredTypes, hkey, Checker.ownDefaults, htypes]
    rfl

/-- Separators and blanks around them, and the case of letters, make no difference to a call. But a
    function with a blank behind the separator, registered or configured, is not found by a call
    with the same text, although the tables find it, and so does the check of the function
    itself. -/
theorem calls_find_stated_iff_load :
    ((ofOptions (.ofFunction "Load" (.ofTexts ["LoadError"])) {} Refinement.standard).infer
      (.call "\t\\\\LOAD " [])).toList = [⟨"LoadError"⟩] ∧
    Symbol.isIndented "\\ load" = true ∧
    (stated (.ofFunction "\\ load" (.ofTexts ["LoadError"])) {} "\\ load").toList
      = [⟨"LoadError"⟩] ∧
    (ofOptions (.ofFunction "\\ load" (.ofTexts ["LoadError"])) {} Refinement.standard).infer
      (.call "\\ load" []) = ∅ ∧
    ((Checker.ofFunction "\\ load" ["LoadError"] Refinement.standard).ownDefaults
      (.function "\\ load")).toList = [⟨"LoadError"⟩] ∧
    (Checker.ofFunction "\\ load" ["LoadError"] Refinement.standard).throwModel.infer
      (.call "\\ load" []) = ∅ := by
  obtain ⟨-, hfound, -⟩ := calls_find_stated_iff "\t\\\\LOAD "
  obtain ⟨hcall, -⟩ := calls_find_stated_iff "\\ load"
  have hloud : CountsByName Refinement.standard "\t\\\\LOAD " := by decide +kernel
  have hindented : CountsByName Refinement.standard "\\ load" := by decide +kernel
  refine ⟨?_, by decide +kernel, by decide +kernel, ?_, by decide +kernel, ?_⟩
  · rw [hfound.2 (by decide +kernel) _ {} Refinement.standard [] hloud]
    decide +kernel
  · rw [hcall _ {} Refinement.standard [] hindented]
    exact TypeSet.ext (by decide +kernel)
  · refine (hcall Registry.empty (.ofFunction "\\ load" ["LoadError"]) Refinement.standard []
      hindented).trans (TypeSet.ext ?_)
    decide +kernel

end ThrowModel

end ExceptionFlow
