import Mathlib.Data.List.Perm.Lattice
import ExceptionFlow.Proofs.Roots

set_option autoImplicit false

/-! # The order of configured tables

The tables of a configuration are read in no particular order. `Options.Reordered` relates
configurations whose tables have the same entries in other orders, the inner tables too. As long as
no two entries are for the same method or function (`Options.CollisionFree`), they are the same
configuration: every look-up has the same answer, the same methods are exempt, and every unit gets
the same diagnostics (`Checker.configuration_order_irrelevant`).

Look-ups have one possible answer each, whatever order the entries were put in, because the keys are
pairwise different (`Catalog.get?_ofList_perm`). Exemptions are gathered in the order of their
table, but are only ever asked whether there is one that covers a method. Which texts are patterns
and what they match plays no part in this, so it is proved for any partial function from texts to
predicates (`Exemption.readBy`), of which the patterns of this library are one instance
(`Exemption.readBy_namesMatching?`). What a checker does with a node depends on nothing but these
answers (`Checker.Agree`). -/

namespace ExceptionFlow

/-! ## Catalogs -/

namespace Catalog

variable {α κ : Type} {key : α → κ} [DecidableEq κ]

theorem replaceOrAppend_of_not_mem {a : α} {items : List α} (h : key a ∉ items.map key) :
    replaceOrAppend key a items = items ++ [a] := by
  induction items with
  | nil => rfl
  | cons b rest ih =>
    rw [List.map_cons, List.mem_cons, not_or] at h
    rw [replaceOrAppend, if_neg (Ne.symm h.1), ih h.2, List.cons_append]

/-- Items with different keys are kept as they come. -/
theorem items_ofList {items : List α} (h : (items.map key).Nodup) :
    (ofList items : Catalog key).items = items := by
  have hfold (c : Catalog key) (hc : ((c.items ++ items).map key).Nodup) :
      (items.foldl put c).items = c.items ++ items := by
    clear h
    induction items generalizing c with
    | nil => rw [List.foldl_nil, List.append_nil]
    | cons a rest ih =>
      have hnew : key a ∉ c.items.map key := by
        rw [List.map_append, List.nodup_append] at hc
        intro hmem
        exact hc.2.2 _ hmem _ (List.mem_map_of_mem List.mem_cons_self) rfl
      have hput : (c.put a).items = c.items ++ [a] := replaceOrAppend_of_not_mem hnew
      have hall : (c.put a).items ++ rest = c.items ++ a :: rest := by
        rw [hput, List.append_assoc, List.singleton_append]
      rw [List.foldl_cons, ih (c.put a) (by rw [hall]; exact hc), hall]
  exact hfold empty h

/-- A look-up does not depend on the order of the items. -/
theorem get?_perm {c c' : Catalog key} (h : c.items.Perm c'.items) (k : κ) :
    c.get? k = c'.get? k := by
  ext a
  rw [get?_eq_some_iff, get?_eq_some_iff, h.mem_iff]

theorem get?_ofList_perm {items items' : List α} (h : items.Perm items')
    (hkeys : (items.map key).Nodup) (k : κ) :
    (ofList items : Catalog key).get? k = (ofList items' : Catalog key).get? k := by
  refine get?_perm ?_ k
  rw [items_ofList hkeys, items_ofList ((h.map key).nodup_iff.1 hkeys)]
  exact h

end Catalog

/-! ## Configurations -/

namespace Options

/-- The same configuration, its tables read in another order. -/
structure Reordered (o o' : Options) : Prop where
  settings : o' = { o with
    methodThrowTypeDeclarations := o'.methodThrowTypeDeclarations
    functionThrowTypeDeclarations := o'.functionThrowTypeDeclarations
    methodWhitelist := o'.methodWhitelist }
  /-- The classes are reordered, and then the methods of each. -/
  methods : ∃ classes, o.methodThrowTypeDeclarations.items.Perm classes ∧
    List.Forall₂ (fun c c' => c.1 = c'.1 ∧ c.2.items.Perm c'.2.items) classes
      o'.methodThrowTypeDeclarations.items
  functions :
    o.functionThrowTypeDeclarations.items.Perm o'.functionThrowTypeDeclarations.items
  exemptions : o.methodWhitelist.items.Perm o'.methodWhitelist.items

/-- No two entries state the throw types of one method or of one function: names of classes and
    functions are told apart by their keys, those of methods without regard to case. -/
structure CollisionFree (o : Options) : Prop where
  methods : (o.methodThrowTypeDeclarations.items.flatMap fun c =>
    c.2.items.map fun m => ((ClassName.ofText c.1).key, Symbol.caseless m.1)).Nodup
  functions : (o.functionThrowTypeDeclarations.items.map fun f => Symbol.functionKey f.1).Nodup

end Options

variable {o o' : Options}

/-- The roots are not in the tables. -/
theorem Options.Reordered.policy_eq (h : o.Reordered o') :
    CheckedPolicy.ofOptions o' = CheckedPolicy.ofOptions o := by
  rw [h.settings]
  rfl

/-! ## Throw types -/

namespace Defaults

theorem flatMap_methodEntries_perm
    {classes classes' : List (String × NameTable (List String))}
    (h : List.Forall₂ (fun c c' => c.1 = c'.1 ∧ c.2.items.Perm c'.2.items) classes classes') :
    (classes.flatMap methodEntries).Perm (classes'.flatMap methodEntries) := by
  induction h with
  | nil => exact .nil
  | cons hclass _ ih =>
    rw [List.flatMap_cons, List.flatMap_cons]
    refine List.Perm.append ?_ ih
    rw [methodEntries, methodEntries, hclass.1]
    exact hclass.2.map _

theorem method?_reordered (h : o.Reordered o') (hfree : o.CollisionFree) (H : Hierarchy)
    (owner : ClassName) (method : String) :
    (ofOptions o).method? H owner method = (ofOptions o').method? H owner method := by
  have hentries : (o.methodThrowTypeDeclarations.items.flatMap methodEntries).Perm
      (o'.methodThrowTypeDeclarations.items.flatMap methodEntries) := by
    obtain ⟨classes, houter, hinner⟩ := h.methods
    exact (houter.flatMap_right methodEntries).trans (flatMap_methodEntries_perm hinner)
  have hkeys : ((o.methodThrowTypeDeclarations.items.flatMap methodEntries).map
      MethodDefault.key).Nodup := by
    rw [List.map_flatMap]
    simpa [methodEntries, MethodDefault.key, Function.comp_def] using hfree.methods
  have hown (owner : ClassName) :
      (ofOptions o).ownMethod? owner method = (ofOptions o').ownMethod? owner method := by
    rw [ownMethod?, ownMethod?, ofOptions, ofOptions, Catalog.get?_ofList_perm hentries hkeys]
  simp only [method?, hown]

theorem function?_reordered (h : o.Reordered o') (hfree : o.CollisionFree) (name : String) :
    (ofOptions o).function? name = (ofOptions o').function? name := by
  have hkeys : ((o.functionThrowTypeDeclarations.items.map fun f =>
      (⟨Symbol.functionKey f.1, .ofTexts f.2⟩ : FunctionDefault)).map
        FunctionDefault.function).Nodup := by
    rw [List.map_map]
    exact hfree.functions
  rw [function?, function?, ofOptions, ofOptions,
    Catalog.get?_ofList_perm (h.functions.map _) hkeys]

end Defaults

/-! ## Exemptions -/

namespace Exemption

/-- The exemptions of the options by any reading of patterns: each with its class and the names that
    it is for. A text that the reading has nothing for is an invalid pattern. -/
def readBy (compile : String → Option (String → Bool)) (o : Options) :
    Except ConfigError (List (ClassName × (String → Bool))) :=
  o.methodWhitelist.items.mapM fun entry =>
    match compile entry.2 with
    | some names => .ok (.ofText entry.1, names)
    | none => .error (.invalidPattern entry.1)

/-- Whether some exemption, with the names that it is for, covers a method. -/
def someCovers (rules : List (ClassName × (String → Bool))) (H : Hierarchy) (owner : ClassName)
    (method : String) : Bool :=
  rules.any fun rule => rule.2 method && H.isSameOrSubclass owner rule.1

section AnyReading

variable {compile : String → Option (String → Bool)}
  (h : o.methodWhitelist.items.Perm o'.methodWhitelist.items)

include h

theorem isOk_readBy_reordered : (readBy compile o).isOk = (readBy compile o').isOk :=
  isOk_mapM_perm h

/-- Exemptions that were read in two orders, and are kept in two orders, cover the same methods. -/
theorem someCovers_reordered {rules rules' kept kept' : List (ClassName × (String → Bool))}
    (hread : readBy compile o = .ok rules) (hread' : readBy compile o' = .ok rules')
    (hkept : kept.Perm rules) (hkept' : kept'.Perm rules') (H : Hierarchy) (owner : ClassName)
    (method : String) : someCovers kept H owner method = someCovers kept' H owner method := by
  have hperm : kept.Perm kept' :=
    hkept.trans ((perm_of_mapM_eq_ok h hread hread').trans hkept'.symm)
  rw [someCovers, someCovers, Bool.eq_iff_iff, List.any_eq_true, List.any_eq_true]
  simp only [hperm.mem_iff]

end AnyReading

/-- The names in which the pattern of a text occurs, if it is one. -/
def namesMatching? (text : String) : Option (String → Bool) :=
  (Pattern.Expr.ofText? text).map Pattern.Expr.occursIn

/-- An exemption as a class and the names that it is for. -/
def rule (e : Exemption) : ClassName × (String → Bool) := (e.owner, e.pattern.occursIn)

theorem readBy_namesMatching? (o : Options) :
    readBy namesMatching? o = (ofOptions o).map (List.map rule) := by
  rw [readBy, ofOptions, ← mapM_map_except]
  congr 1
  funext entry
  rw [namesMatching?, ofEntry]
  cases Pattern.Expr.ofText? entry.2 <;> rfl

theorem readBy_of_ofOptions {exemptions : List Exemption} (h : ofOptions o = .ok exemptions) :
    readBy namesMatching? o = .ok (exemptions.map rule) := by
  rw [readBy_namesMatching?, h]
  rfl

theorem someCovers_map_rule (exemptions : List Exemption) (H : Hierarchy) (owner : ClassName)
    (method : String) :
    someCovers (exemptions.map rule) H owner method = anyCovers exemptions H owner method :=
  List.any_map

theorem isOk_ofOptions_reordered (h : o.methodWhitelist.items.Perm o'.methodWhitelist.items) :
    (ofOptions o).isOk = (ofOptions o').isOk := by
  have hread := @isOk_readBy_reordered o o' namesMatching? h
  rwa [readBy_namesMatching?, readBy_namesMatching?, isOk_map, isOk_map] at hread

theorem anyCovers_reordered (h : o.methodWhitelist.items.Perm o'.methodWhitelist.items)
    {exemptions exemptions' kept kept' : List Exemption} (hread : ofOptions o = .ok exemptions)
    (hread' : ofOptions o' = .ok exemptions') (hkept : kept.Perm exemptions)
    (hkept' : kept'.Perm exemptions') (H : Hierarchy) (owner : ClassName) (method : String) :
    anyCovers kept H owner method = anyCovers kept' H owner method := by
  rw [← someCovers_map_rule, ← someCovers_map_rule]
  exact someCovers_reordered h (readBy_of_ofOptions hread) (readBy_of_ofOptions hread')
    (hkept.map rule) (hkept'.map rule) H owner method

end Exemption

/-! ## Units -/

namespace ThrowModel

variable {H : Hierarchy} {d d' : Defaults} {refinements : List Refinement}
  (hmethods : ∀ owner method, d.method? H owner method = d'.method? H owner method)

include hmethods

theorem method?_of_defaults (owner : ClassName) (method : String) :
    (⟨H, d, refinements⟩ : ThrowModel).method? owner method
      = (⟨H, d', refinements⟩ : ThrowModel).method? owner method := by
  simp only [method?, hmethods]
  rfl

theorem iterationTypes_of_defaults (subject : StaticType) (bindsKey : Bool) :
    (⟨H, d, refinements⟩ : ThrowModel).iterationTypes subject bindsKey
      = (⟨H, d', refinements⟩ : ThrowModel).iterationTypes subject bindsKey := by
  have hsame (owner : ClassName) :
      (⟨H, d, refinements⟩ : ThrowModel).methodTypes owner
        = (⟨H, d', refinements⟩ : ThrowModel).methodTypes owner := by
    funext method
    rw [methodTypes, methodTypes, method?_of_defaults hmethods]
  simp only [iterationTypes, hsame]
  rfl

theorem implementedTypes_of_defaults (subject : StaticType) (iface method : String) :
    (⟨H, d, refinements⟩ : ThrowModel).implementedTypes subject iface method
      = (⟨H, d', refinements⟩ : ThrowModel).implementedTypes subject iface method := by
  simp only [implementedTypes, methodTypes, method?_of_defaults hmethods]
  rfl

theorem protocolTypes_of_defaults (function : String) (args : List StaticType) :
    (⟨H, d, refinements⟩ : ThrowModel).protocolTypes function args
      = (⟨H, d', refinements⟩ : ThrowModel).protocolTypes function args := by
  simp only [protocolTypes, iterationTypes_of_defaults hmethods,
    implementedTypes_of_defaults hmethods]

/-- Inference asks for the configured throw types of methods and functions, and for nothing else of
    the configuration. -/
theorem infer_of_defaults (hfunctions : ∀ name, d.function? name = d'.function? name)
    (construct : Construct) :
    (⟨H, d, refinements⟩ : ThrowModel).infer construct
      = (⟨H, d', refinements⟩ : ThrowModel).infer construct := by
  cases construct with
  | throw value => rfl
  | division divisor => rfl
  | shift amount => rfl
  | methodCall receiver method =>
    simp only [infer, callTypes, methodTypes, method?_of_defaults hmethods]
  | staticCall owner method =>
    simp only [infer, callTypes, methodTypes, method?_of_defaults hmethods]
  | new owner => simp only [infer, methodTypes, method?_of_defaults hmethods]
  | iteration subject bindsKey => exact iterationTypes_of_defaults hmethods subject bindsKey
  | call name args =>
    have hdeclared (function : String) :
        (⟨H, d, refinements⟩ : ThrowModel).declaredTypes function
          = (⟨H, d', refinements⟩ : ThrowModel).declaredTypes function := by
      simp only [declaredTypes, hfunctions]
    simp only [infer, functionTypes, hdeclared, protocolTypes_of_defaults hmethods]
    rfl

end ThrowModel

namespace Checker

/-- Two checkers whose configurations give the same answers. -/
structure Agree (K K' : Checker) : Prop where
  hierarchy : K'.hierarchy = K.hierarchy
  file : K'.file = K.file
  policy : K'.policy = K.policy
  refinements : K'.refinements = K.refinements
  unusedCatches : K'.options.reportUnusedCatchesOfUncheckedExceptions
    = K.options.reportUnusedCatchesOfUncheckedExceptions
  unusedInSubtypes : K'.options.reportUnusedCheckedThrowsInSubtypes
    = K.options.reportUnusedCheckedThrowsInSubtypes
  globalScope : K'.options.reportCheckedThrowsInGlobalScope
    = K.options.reportCheckedThrowsInGlobalScope
  methods : ∀ owner method, K.defaults.method? K.hierarchy owner method
    = K'.defaults.method? K.hierarchy owner method
  functions : ∀ name, K.defaults.function? name = K'.defaults.function? name
  exempt : ∀ owner method, Exemption.anyCovers K.exemptions K.hierarchy owner method
    = Exemption.anyCovers K'.exemptions K.hierarchy owner method

namespace Agree

variable {K K' : Checker}

theorem isExempt_eq (h : K.Agree K') (callable : Callable) :
    K'.isExempt callable = K.isExempt callable := by
  cases callable with
  | method owner name => rw [isExempt, isExempt, h.hierarchy, h.exempt]
  | function name => rfl
  | closure => rfl

theorem ownDefaults_eq (h : K.Agree K') (callable : Callable) :
    K'.ownDefaults callable = K.ownDefaults callable := by
  cases callable with
  | method owner name => rw [ownDefaults, ownDefaults, h.hierarchy, h.methods]
  | function name => rw [ownDefaults, ownDefaults, h.functions]
  | closure => rfl

theorem mayDeclareFreely_eq (h : K.Agree K') (callable : Callable) :
    K'.mayDeclareFreely callable = K.mayDeclareFreely callable := by
  cases callable with
  | method owner name =>
    simp only [mayDeclareFreely, implementsAbstract, h.unusedInSubtypes, h.hierarchy]
  | function name => rfl
  | closure => rfl

theorem infer_eq (h : K.Agree K') (construct : Construct) :
    K'.throwModel.infer construct = K.throwModel.infer construct := by
  rw [throwModel, throwModel, h.hierarchy, h.refinements]
  exact (ThrowModel.infer_of_defaults h.methods h.functions construct).symm

theorem report_eq (h : K.Agree K') : K'.report = K.report := by
  funext line code names
  rw [report, report, h.file]

/-- A node is visited alike. -/
theorem visit_eq (h : K.Agree K') (scope : Scope) (node : Node) (line : Nat) :
    K'.visit scope node line = K.visit scope node line := by
  cases node with
  | functionStart contract =>
    have hundeclared : K'.isUndeclaredMethod = K.isUndeclaredMethod := by
      funext owner method
      rw [isUndeclaredMethod, isUndeclaredMethod, h.hierarchy]
    simp only [visit, enterFunction, bodyOf, uselessTags, hundeclared, h.isExempt_eq, h.report_eq,
      h.hierarchy]
  | functionEnd =>
    simp only [visit, exitFunction, unusedThrows, unusedTypes, h.mayDeclareFreely_eq,
      h.ownDefaults_eq, h.report_eq, h.policy, h.hierarchy]
  | tryStart clauses =>
    have hpointless : K'.pointlessCatch = K.pointlessCatch := by
      funext f
      simp only [pointlessCatch, h.report_eq]
    simp only [visit, enterTry, regionOf, hpointless, h.hierarchy]
  | tryEnd =>
    have hentry : K'.isNeverThrown = K.isNeverThrown := by
      funext e
      simp only [isNeverThrown, h.unusedCatches, h.policy, h.hierarchy]
    simp only [visit, exitTry, neverThrown, hentry, h.report_eq]
  | throwing construct =>
    simp only [visit, throwAt, escapes, h.infer_eq, h.report_eq, h.policy, h.globalScope,
      h.hierarchy]

theorem step_eq (h : K.Agree K') (s : State) (node : Node) (line : Nat) :
    K'.step s node line = K.step s node line := by
  rw [step, step, h.visit_eq]

/-- So are all nodes of a unit, up to the first that is refused. -/
theorem run_eq (h : K.Agree K') (s : State) (nodes : List (Node × Nat)) :
    K'.run s nodes = K.run s nodes := by
  induction nodes generalizing s with
  | nil => rfl
  | cons first rest ih =>
    rw [run, run, h.step_eq]
    simp only [ih]

/-- And so are they beyond it. -/
theorem runThrough_eq_of_agree (h : K.Agree K') (s : State) (nodes : List (Node × Nat)) :
    K'.runThrough s nodes = K.runThrough s nodes := by
  induction nodes generalizing s with
  | nil => rfl
  | cons first rest ih =>
    rw [runThrough, runThrough, h.step_eq]
    simp only [ih]

end Agree

/-- A checker for a configuration that exempts what the rules cover, which come from some reading of
    the patterns. -/
structure ConfiguredBy (K : Checker) (H : Hierarchy) (file : String) (o : Options)
    (further : List Refinement) (rules : List (ClassName × (String → Bool))) : Prop where
  settings : K
    = ⟨H, file, o, K.policy, .ofOptions o, K.exemptions, Refinement.standard ++ further⟩
  policy : CheckedPolicy.ofOptions o = .ok K.policy
  exempt : ∀ owner method, Exemption.anyCovers K.exemptions H owner method
    = Exemption.someCovers rules H owner method

section Configured

variable {H : Hierarchy} {file : String} {further : List Refinement} {K K' : Checker}

/-- The checker of a configuration has the rules that its own reading of patterns gives. -/
theorem exists_configuredBy (hK : ofOptions H file o further = .ok K) :
    ∃ rules, Exemption.readBy Exemption.namesMatching? o = .ok rules ∧
      K.ConfiguredBy H file o further rules := by
  obtain ⟨policy, exemptions, hpolicy, hexemptions, rfl⟩ := ofOptions_eq_ok_iff.1 hK
  refine ⟨exemptions.map Exemption.rule, Exemption.readBy_of_ofOptions hexemptions, rfl, hpolicy,
    ?_⟩
  intro owner method
  exact (Exemption.someCovers_map_rule exemptions H owner method).symm

section Reordered

variable (h : o.Reordered o') (hfree : o.CollisionFree)
  {compile : String → Option (String → Bool)} {rules rules' : List (ClassName × (String → Bool))}
  (hread : Exemption.readBy compile o = .ok rules)
  (hread' : Exemption.readBy compile o' = .ok rules')
  (hK : K.ConfiguredBy H file o further rules) (hK' : K'.ConfiguredBy H file o' further rules')

include h hfree hread hread' hK hK'

/-- Reordered configurations give checkers that agree, by whatever reading of patterns. -/
theorem agree_of_reordered : K.Agree K' := by
  have hpolicy : K'.policy = K.policy := by
    have hsame := hK'.policy
    rw [h.policy_eq, hK.policy] at hsame
    exact (Except.ok.inj hsame).symm
  have hexempt (owner : ClassName) (method : String) :
      Exemption.anyCovers K.exemptions H owner method
        = Exemption.anyCovers K'.exemptions H owner method := by
    rw [hK.exempt, hK'.exempt]
    exact Exemption.someCovers_reordered h.exemptions hread hread' (.refl _) (.refl _) H owner
      method
  rw [hK.settings, hK'.settings, hpolicy]
  exact {
    hierarchy := rfl
    file := rfl
    policy := rfl
    refinements := rfl
    unusedCatches := by rw [h.settings]
    unusedInSubtypes := by rw [h.settings]
    globalScope := by rw [h.settings]
    methods := Defaults.method?_reordered h hfree H
    functions := Defaults.function?_reordered h hfree
    exempt := hexempt }

theorem run_of_reordered (nodes : List (Node × Nat)) :
    K.run .start nodes = K'.run .start nodes ∧
      K.runThrough .start nodes = K'.runThrough .start nodes := by
  have hagree := agree_of_reordered h hfree hread hread' hK hK'
  exact ⟨(hagree.run_eq .start nodes).symm, (hagree.runThrough_eq_of_agree .start nodes).symm⟩

end Reordered

end Configured

theorem isOk_ofOptions_iff {H : Hierarchy} {file : String} {further : List Refinement} :
    (ofOptions H file o further).isOk = true
      ↔ (CheckedPolicy.ofOptions o).isOk = true ∧ (Exemption.ofOptions o).isOk = true := by
  unfold ofOptions
  cases CheckedPolicy.ofOptions o with
  | error e => simp [Except.isOk, Except.toBool]
  | ok policy => cases Exemption.ofOptions o <;> simp [Except.isOk, Except.toBool]

/-- **Configured tables may be read in any order.** Let the tables of a configuration be reordered,
    and let no two entries state the throw types of one method or function. Then the configured
    throw types of all methods and functions are the same in every hierarchy. By any reading of
    patterns, the exemptions can be read in both orders or in none, and exempt the same methods, in
    whatever order they are kept then; checkers with these exemptions find the same in every unit.

    So it is with the patterns as they are: the configuration is accepted in both orders or in none,
    and every unit comes out the same, with the same diagnostics. -/
theorem configuration_order_irrelevant (h : o.Reordered o') (hfree : o.CollisionFree) :
    (∀ H owner method, (Defaults.ofOptions o).method? H owner method
      = (Defaults.ofOptions o').method? H owner method) ∧
    (∀ name, (Defaults.ofOptions o).function? name = (Defaults.ofOptions o').function? name) ∧
    (∀ compile, (Exemption.readBy compile o).isOk = (Exemption.readBy compile o').isOk ∧
      ∀ rules rules', Exemption.readBy compile o = .ok rules →
        Exemption.readBy compile o' = .ok rules' →
        (∀ kept kept', kept.Perm rules → kept'.Perm rules' →
          ∀ H owner method, Exemption.someCovers kept H owner method
            = Exemption.someCovers kept' H owner method) ∧
        ∀ H file further (K K' : Checker), K.ConfiguredBy H file o further rules →
          K'.ConfiguredBy H file o' further rules' →
          ∀ nodes, K.run .start nodes = K'.run .start nodes ∧
            K.runThrough .start nodes = K'.runThrough .start nodes) ∧
    (Exemption.ofOptions o).isOk = (Exemption.ofOptions o').isOk ∧
    (∀ exemptions exemptions', Exemption.ofOptions o = .ok exemptions →
      Exemption.ofOptions o' = .ok exemptions' →
      ∀ kept kept', kept.Perm exemptions → kept'.Perm exemptions' →
        ∀ H owner method, Exemption.anyCovers kept H owner method
          = Exemption.anyCovers kept' H owner method) ∧
    ∀ H file further,
      (ofOptions H file o further).isOk = (ofOptions H file o' further).isOk ∧
      ∀ K K', ofOptions H file o further = .ok K → ofOptions H file o' further = .ok K' →
        ∀ nodes, K.run .start nodes = K'.run .start nodes ∧
          K.runThrough .start nodes = K'.runThrough .start nodes := by
  have hexemptions := Exemption.isOk_ofOptions_reordered h.exemptions
  refine ⟨Defaults.method?_reordered h hfree, Defaults.function?_reordered h hfree, ?_, hexemptions,
    ?_, ?_⟩
  · intro compile
    refine ⟨Exemption.isOk_readBy_reordered h.exemptions, ?_⟩
    intro rules rules' hread hread'
    refine ⟨?_, ?_⟩
    · intro kept kept' hkept hkept'
      exact Exemption.someCovers_reordered h.exemptions hread hread' hkept hkept'
    · intro H file further K K' hK hK'
      exact run_of_reordered h hfree hread hread' hK hK'
  · intro exemptions exemptions' hread hread' kept kept' hkept hkept'
    exact Exemption.anyCovers_reordered h.exemptions hread hread' hkept hkept'
  · intro H file further
    refine ⟨?_, ?_⟩
    · rw [Bool.eq_iff_iff, isOk_ofOptions_iff, isOk_ofOptions_iff, hexemptions, h.policy_eq]
    · intro K K' hK hK'
      obtain ⟨rules, hread, hrules⟩ := exists_configuredBy hK
      obtain ⟨rules', hread', hrules'⟩ := exists_configuredBy hK'
      exact run_of_reordered h hfree hread hread' hrules hrules'

/-- One class by two names, with different methods, and two patterns for one class. -/
def streams : Options where
  reportCheckedThrowsInGlobalScope := true
  methodThrowTypeDeclarations := ⟨[
    ("Stream", ⟨[("read", ["IoError"]), ("seek", ["RangeError"])], by decide⟩),
    ("\\stream", ⟨[("WRITE", ["IoError", "DiskError"])], by decide⟩)], by decide⟩
  functionThrowTypeDeclarations := ⟨[("open", ["IoError"]), ("Close", [])], by decide⟩
  methodWhitelist := ⟨[("Case", "^test"), ("\\Case", "Fails")], by decide⟩

/-- The same, with every table the other way round. -/
def streamsReversed : Options where
  reportCheckedThrowsInGlobalScope := true
  methodThrowTypeDeclarations := ⟨[
    ("\\stream", ⟨[("WRITE", ["IoError", "DiskError"])], by decide⟩),
    ("Stream", ⟨[("seek", ["RangeError"]), ("read", ["IoError"])], by decide⟩)], by decide⟩
  functionThrowTypeDeclarations := ⟨[("Close", []), ("open", ["IoError"])], by decide⟩
  methodWhitelist := ⟨[("\\Case", "Fails"), ("Case", "^test")], by decide⟩

theorem streams_reordered : streams.Reordered streamsReversed where
  settings := rfl
  methods := ⟨_, .swap _ _ [], .cons ⟨rfl, .refl _⟩ (.cons ⟨rfl, .swap _ _ []⟩ .nil)⟩
  functions := .swap _ _ []
  exemptions := .swap _ _ []

/-- The class that the methods are configured for. -/
def streamRegistry : Registry :=
  (Registry.empty.addClass (.bare ⟨"IoError"⟩ .concrete)).addClass
    (.bare ⟨"STREAM"⟩ .concrete)

/-- A call in the global scope. -/
def writing : List (Node × Nat) := [(.throwing (.staticCall ⟨"Stream"⟩ "write"), 1)]

/-- A reading of patterns that takes every text for the one name that it is. -/
def literally (text : String) : Option (String → Bool) := some (· == text)

/-- The methods of the two names are found under both, in either order, and what one of them throws
    is reported alike. Read literally, the pattern in the other place is found too. -/
theorem configuration_order_irrelevant_streams :
    streams.Reordered streamsReversed ∧ streams.CollisionFree ∧
    ((Defaults.ofOptions streams).method? streamRegistry.hierarchy ⟨"stream"⟩ "Seek").isSome ∧
    ((Defaults.ofOptions streamsReversed).method? streamRegistry.hierarchy ⟨"stream"⟩
      "Seek").isSome ∧
    (∃ rules rules', Exemption.readBy literally streams = .ok rules ∧
      Exemption.readBy literally streamsReversed = .ok rules' ∧
      Exemption.someCovers rules streamRegistry.hierarchy ⟨"Case"⟩ "Fails" = true ∧
      Exemption.someCovers rules' streamRegistry.hierarchy ⟨"Case"⟩ "Fails" = true) ∧
    ∃ K K', ofOptions streamRegistry.hierarchy "unit" streams [] = .ok K ∧
      ofOptions streamRegistry.hierarchy "unit" streamsReversed [] = .ok K' ∧
      K.run .start writing = K'.run .start writing ∧
      (K'.run .start writing).2.diagnostics
        = [⟨"unit", 1, .throwInGlobalScope, [⟨"IoError"⟩]⟩] := by
  have hfree : streams.CollisionFree := ⟨by decide +kernel, by decide +kernel⟩
  obtain ⟨hmethods, -, hreadings, -, -, hunits⟩ :=
    configuration_order_irrelevant streams_reordered hfree
  obtain ⟨hok, hruns⟩ := hunits streamRegistry.hierarchy "unit" []
  have haccepted : (ofOptions streamRegistry.hierarchy "unit" streams []).isOk = true := by
    decide +kernel
  obtain ⟨K, hK⟩ := exists_of_isOk haccepted
  obtain ⟨K', hK'⟩ := exists_of_isOk (hok.symm.trans haccepted)
  have hcovers := ((hreadings literally).2 _ _ rfl rfl).1 _ _ (.refl _) (.refl _)
    streamRegistry.hierarchy ⟨"Case"⟩ "Fails"
  have hseek : ((Defaults.ofOptions streams).method? streamRegistry.hierarchy ⟨"stream"⟩
      "Seek").isSome := by decide +kernel
  have hreport : (ofOptions streamRegistry.hierarchy "unit" streamsReversed []).toOption.map
      (fun K => (K.run .start writing).2.diagnostics)
        = some [⟨"unit", 1, .throwInGlobalScope, [⟨"IoError"⟩]⟩] := by
    decide +kernel
  rw [hK'] at hreport
  exact ⟨streams_reordered, hfree, hseek, hmethods _ _ _ ▸ hseek,
    ⟨_, _, rfl, rfl, by decide +kernel, hcovers.symm.trans (by decide +kernel)⟩, K, K', hK, hK',
    (hruns K K' hK hK' writing).1, Option.some.inj hreport⟩

end Checker

end ExceptionFlow
