import ExceptionFlow.Proofs.Pruning
import ExceptionFlow.Proofs.Roots
import ExceptionFlow.Proofs.UselessTags

set_option autoImplicit false

/-! # Unused declarations, spelling by spelling

What a function declares is kept as written, up to leading separators and blanks around the names:
two spellings of a class that differ in case are two declarations. Whether a declaration is unused,
however, is a question about its class (`UnusedIn.of_isSameClass`). So if a function spells a class
in several ways and the class is unused, the end of the function reports all of them
(`unused_reports_repeat_class`). They are not silently repeated: at the start of the function at
most one of them was useful, and the others were reported as useless (`mem_uselessTypes_or`). -/

namespace ExceptionFlow

/-! ## The body that an end closes -/

/-- An open body has its start among the nodes, and behind it the nodes that are in it. -/
theorem exists_start_of_mem_openBodies {nodes : List (Node × Nat)} {b : OpenBody}
    (h : b ∈ openBodies nodes) :
    ∃ before line, nodes = before ++ (b.start.node, line) :: b.inner ∧
      unmatchedEnds b.inner = 0 := by
  induction nodes with
  | nil => cases h
  | cons node rest ih =>
    have hlater : b ∈ openBodies rest →
        ∃ before line, node :: rest = before ++ (b.start.node, line) :: b.inner ∧
          unmatchedEnds b.inner = 0 := by
      intro hb
      obtain ⟨before, line, hrest, hends⟩ := ih hb
      exact ⟨node :: before, line, by rw [hrest, List.cons_append], hends⟩
    rw [openBodies] at h
    cases hrole : node.1.role with
    | closes kind => exact hlater (by simpa only [hrole] using h)
    | throws construct => exact hlater (by simpa only [hrole] using h)
    | opens start =>
      simp only [hrole] at h
      split at h
      · -- the body is one of those that start later, or the one that starts here
        rename_i hends
        rcases List.mem_append.1 h with hb | hb
        · exact hlater hb
        · obtain rfl := List.mem_singleton.1 hb
          have hnode : node.1 = start.node := Node.eq_node_of_role hrole
          exact ⟨[], node.2, by rw [← hnode, List.nil_append], hends⟩
      · exact hlater h

/-! ## Names of one class -/

theorem Registry.interception_congr {r : Registry} {a b : ClassName}
    (h : r.hierarchy.isSameClass a b = true) (thrown : ClassName) :
    r.hierarchy.interception a thrown = r.hierarchy.interception b thrown := by
  have hkey := isSameClass_iff.1 h
  have hbelow : r.hierarchy.isSameOrSubclass thrown a = r.hierarchy.isSameOrSubclass thrown b := by
    rw [Bool.eq_iff_iff, isSameOrSubclass_iff, isSameOrSubclass_iff, hkey]
  unfold Hierarchy.interception
  rw [hbelow, isSubclass_congr hkey rfl]

namespace TagFinding

variable {r : Registry} {tags : List ThrowsTag}

/-- Behind a useful tag for its class, a tag is useless. -/
theorem not_mem_usefulAmong_of_earlier {seen tag : ThrowsTag × Nat}
    (hseen : seen ∈ usefulAmong r.hierarchy [] (sortedTags r.hierarchy tags))
    (htag : tag ∈ sortedTags r.hierarchy tags)
    (hsame : r.hierarchy.isSameClass seen.1.type tag.1.type = true) (hlt : seen.2 < tag.2) :
    tag ∉ usefulAmong r.hierarchy [] (sortedTags r.hierarchy tags) := by
  rw [mem_usefulAmong_iff (pairwise_sortedTags tags) htag, not_not]
  exact ⟨seen, hseen, (precedes_iff_of_key_eq (Registry.isSameClass_iff.1 hsame)).2 hlt,
    .inl hsame⟩

theorem type_mem_uselessTypes {H : Hierarchy} {tag : ThrowsTag} {i : Nat}
    (htag : (tag, i) ∈ sortedTags H tags) (h : (tag, i) ∉ usefulAmong H [] (sortedTags H tags)) :
    tag.type ∈ uselessTypes H tags := by
  rw [uselessTypes_eq]
  exact List.mem_map.2 ⟨(tag, i), List.mem_filter.2 ⟨htag, decide_eq_true h⟩, rfl⟩

/-- Of two spellings of a class in the tags of a function, one is useless. -/
theorem mem_uselessTypes_or {a b : ClassName} (ha : a ∈ tags.map ThrowsTag.type)
    (hb : b ∈ tags.map ThrowsTag.type) (hne : a ≠ b)
    (hsame : r.hierarchy.isSameClass a b = true) :
    a ∈ uselessTypes r.hierarchy tags ∨ b ∈ uselessTypes r.hierarchy tags := by
  obtain ⟨tag, htag, rfl⟩ := List.mem_map.1 ha
  obtain ⟨other, hother, rfl⟩ := List.mem_map.1 hb
  obtain ⟨i, hi⟩ := List.mem_iff_getElem?.1 htag
  obtain ⟨j, hj⟩ := List.mem_iff_getElem?.1 hother
  have hsortedTag : (tag, i) ∈ sortedTags r.hierarchy tags := mem_sortedTags_iff.2 hi
  have hsortedOther : (other, j) ∈ sortedTags r.hierarchy tags := mem_sortedTags_iff.2 hj
  -- if both were useful, the later one would stand behind a useful tag for its class
  by_cases huseful : (tag, i) ∈ usefulAmong r.hierarchy [] (sortedTags r.hierarchy tags)
  · by_cases hboth : (other, j) ∈ usefulAmong r.hierarchy [] (sortedTags r.hierarchy tags)
    · rcases Nat.lt_trichotomy i j with hlt | rfl | hlt
      · exact absurd hboth (not_mem_usefulAmong_of_earlier huseful hsortedOther hsame hlt)
      · rw [hi] at hj
        exact absurd (congrArg ThrowsTag.type (Option.some.inj hj)) hne
      · have hback := r.isSameClass_equivalence.symm hsame
        exact absurd huseful (not_mem_usefulAmong_of_earlier hboth hsortedTag hback hlt)
    · exact .inr (type_mem_uselessTypes hsortedOther hboth)
  · exact .inl (type_mem_uselessTypes hsortedTag huseful)

end TagFinding

namespace Checker

variable {K : Checker} {nodes : List (Node × Nat)} {s t : State} {line : Nat}
  {found : List Diagnostic}

/-! ## Where a function starts and ends -/

theorem accepts_of_step {node : Node} (h : K.step s node line = (.ok found, t)) :
    ∃ after, K.Accepts line s.scope.frames node.role found after := by
  unfold step at h
  rcases hvisit : K.visit s.scope node line with ⟨outcome, scope⟩
  rw [hvisit] at h
  obtain ⟨rfl, -⟩ := Prod.mk.inj h
  exact ⟨scope.frames, visit_eq_ok_iff.1 hvisit⟩

/-- An end of a function that is accepted belongs to the innermost open body, which is a function.
    What it reports are the unused declarations of that function. -/
theorem exists_function_of_step_functionEnd (h : K.run .start nodes = (none, s))
    (hend : K.step s .functionEnd line = (.ok found, t)) :
    ∃ before contract startLine body,
      nodes = before ++ (.functionStart contract, startLine) :: body ∧ Innermost body ∧
      found = K.unusedReports contract body line := by
  obtain ⟨after, haccepts⟩ := accepts_of_step hend
  rw [run_frames h] at haccepts
  cases hopen : openBodies nodes with
  | nil =>
    rw [hopen] at haccepts
    cases haccepts
  | cons b outer =>
    rw [hopen, List.map_cons] at haccepts
    obtain ⟨start, inner⟩ := b
    cases haccepts with
    | closes hkind =>
      rw [frameOf_kind] at hkind
      cases start with
      | tryBody clauses => cases hkind
      | function contract =>
        obtain ⟨before, startLine, hnodes, hends⟩ :=
          exists_start_of_mem_openBodies (hopen ▸ List.mem_cons_self)
        have hinner : openBodies inner = [] :=
          openBodies_inner (hopen.trans (List.nil_append _).symm)
        exact ⟨before, contract, startLine, inner, hnodes, ⟨hends, hinner⟩,
          unusedThrows_frameOf contract inner line⟩

/-- The start of a function in an accepted run reports its useless tags. -/
theorem exists_step_functionStart {before body : List (Node × Nat)} {contract : Contract}
    (h : K.run .start (before ++ (.functionStart contract, line) :: body) = (none, s)) :
    ∃ earlier entered, K.run .start before = (none, earlier) ∧
      K.step earlier (.functionStart contract) line
        = (.ok (K.uselessTags contract line), entered) := by
  obtain ⟨all, after, hruns, -⟩ := run_eq_none_iff.1 h
  obtain ⟨mid, reports, more, hbefore, hbehind, -⟩ := runs_append_iff.1 hruns
  cases hbehind with
  | cons hstart _ =>
    cases hstart with
    | opens admitted =>
      exact ⟨_, _, run_eq_none_iff.2 ⟨reports, mid, hbefore, rfl⟩,
        step_of_accepts (.opens admitted)⟩

/-- The end of a function that is all there is so far. -/
theorem step_functionEnd_of_accepted {contract : Contract} {startLine : Nat}
    {body : List (Node × Nat)}
    (h : (K.run .start ((.functionStart contract, startLine) :: body)).1 = none)
    (hbody : Balanced body) (line : Nat) :
    ∃ t, K.step (K.run .start ((.functionStart contract, startLine) :: body)).2 .functionEnd line
      = (.ok (K.unusedReports contract body line), t) := by
  obtain ⟨scope, hend⟩ :=
    @step_endNode K [] body (.function contract) startLine _ hbody (run_eq_of_fst h) line
  rw [unusedThrows_frameOf] at hend
  exact ⟨_, hend⟩

/-! ## What is unused is unused in every spelling -/

theorem UnusedIn.of_isSameClass {r : Registry} (hregistry : K.hierarchy = r.hierarchy)
    {callable : Callable} {body : List (Node × Nat)} {a b : ClassName}
    (hsame : r.hierarchy.isSameClass a b = true) (h : K.UnusedIn callable body a) :
    K.UnusedIn callable body b := by
  obtain ⟨hexempt, hfree, hchecked, hown, hidle⟩ := h
  rw [hregistry] at hchecked hown hidle
  refine ⟨hexempt, hfree, ?_, ?_, ?_⟩
  · rw [hregistry, ← K.policy.isChecked_congr hsame]
    exact hchecked
  · intro type htype
    rw [hregistry, Bool.eq_false_iff]
    intro hother
    exact Bool.eq_false_iff.1 (hown type htype) (r.isSameClass_equivalence.trans hsame hother)
  · rintro ⟨thrown, hleaves, hintercepts⟩
    rw [hregistry, ← Registry.interception_congr hsame] at hintercepts
    exact hidle ⟨thrown, hleaves, hintercepts⟩

variable (K) in
/-- The spellings that the end of a function reports, in the order of their first tags. -/
def unusedSpellings (contract : Contract) (body : List (Node × Nat)) : List ClassName :=
  (contract.tags.map ThrowsTag.type).eraseDups.filter fun type =>
    K.UnusedIn contract.callable body type

theorem mem_unusedSpellings {contract : Contract} {body : List (Node × Nat)} {type : ClassName} :
    type ∈ K.unusedSpellings contract body
      ↔ type ∈ contract.tags.map ThrowsTag.type ∧ K.UnusedIn contract.callable body type := by
  rw [unusedSpellings, List.mem_filter, List.mem_eraseDups, decide_eq_true_iff]

theorem nodup_unusedSpellings (contract : Contract) (body : List (Node × Nat)) :
    (K.unusedSpellings contract body).Nodup := by
  have hdeclared := contract.declared.nodup
  rw [Contract.declared, TypeSet.toList_ofList] at hdeclared
  exact hdeclared.filter _

/-- **The unused reports of a function name each spelling once.** Let the end of a function be
    accepted in a run over the nodes of a registry. It ends the function whose body is innermost.
    Its reports name types of this function's tags, no spelling twice. If an unused class is spelled
    in several ways, the reports name all of them, and of any two the start of the function reported
    one as useless. If the tags spell every class in one way, the reports name pairwise different
    classes. -/
theorem unused_reports_name_spellings_once (K : Checker) {r : Registry}
    (hregistry : K.hierarchy = r.hierarchy) {nodes : List (Node × Nat)} {s t : State} {line : Nat}
    {found : List Diagnostic} (h : K.run .start nodes = (none, s))
    (hend : K.step s .functionEnd line = (.ok found, t)) :
    ∃ before contract startLine body earlier entered, ∃ types : List ClassName,
      nodes = before ++ (.functionStart contract, startLine) :: body ∧ Innermost body ∧
      K.run .start before = (none, earlier) ∧
      K.step earlier (.functionStart contract) startLine
        = (.ok (K.uselessTags contract startLine), entered) ∧
      found = types.map (fun type => K.report line .unusedThrows [type]) ∧
      types.Nodup ∧
      (∀ a ∈ types, a ∈ contract.tags.map ThrowsTag.type) ∧
      (∀ a ∈ types, ∀ b ∈ contract.tags.map ThrowsTag.type,
        K.hierarchy.isSameClass a b = true → b ∈ types) ∧
      (∀ a ∈ types, ∀ b ∈ types, a ≠ b → K.hierarchy.isSameClass a b = true →
        K.report startLine .uselessThrows [a] ∈ K.uselessTags contract startLine ∨
        K.report startLine .uselessThrows [b] ∈ K.uselessTags contract startLine) ∧
      ((∀ a ∈ contract.tags.map ThrowsTag.type, ∀ b ∈ contract.tags.map ThrowsTag.type,
          K.hierarchy.isSameClass a b = true → a = b) →
        types.Pairwise fun a b => K.hierarchy.isSameClass a b = false) := by
  obtain ⟨before, contract, startLine, body, rfl, hbody, rfl⟩ :=
    exists_function_of_step_functionEnd h hend
  obtain ⟨earlier, entered, hbefore, hstart⟩ := exists_step_functionStart h
  refine ⟨before, contract, startLine, body, earlier, entered, K.unusedSpellings contract body,
    rfl, hbody, hbefore, hstart, rfl, nodup_unusedSpellings contract body, ?_, ?_, ?_, ?_⟩
  · intro a ha
    exact (mem_unusedSpellings.1 ha).1
  · intro a ha b hb hsame
    rw [hregistry] at hsame
    exact mem_unusedSpellings.2 ⟨hb, (mem_unusedSpellings.1 ha).2.of_isSameClass hregistry hsame⟩
  · intro a ha b hb hne hsame
    have hreported {type : ClassName} (huseless : type ∈ TagFinding.uselessTypes r.hierarchy
        contract.tags) :
        K.report startLine .uselessThrows [type] ∈ K.uselessTags contract startLine := by
      rw [uselessTags, hregistry]
      exact List.mem_map.2 ⟨type, huseless, rfl⟩
    rw [hregistry] at hsame
    rcases TagFinding.mem_uselessTypes_or (mem_unusedSpellings.1 ha).1 (mem_unusedSpellings.1 hb).1
      hne hsame with huseless | huseless
    · exact .inl (hreported huseless)
    · exact .inr (hreported huseless)
  · intro hone
    refine (nodup_unusedSpellings contract body).imp_of_mem ?_
    intro a b ha hb hne
    rw [Bool.eq_false_iff]
    intro hsame
    exact hne (hone a (mem_unusedSpellings.1 ha).1 b (mem_unusedSpellings.1 hb).1 hsame)

/-- A function that spells one class in two ways, one of them twice. -/
def mixedTags : Contract :=
  ⟨.closure, [⟨"\\LogicException", none⟩, ⟨"RangeException", none⟩, ⟨"logicexception", none⟩,
    ⟨"LogicException", some "again"⟩]⟩

/-- The function throws what another of its tags declares. -/
def mixedUnit : List (Node × Nat) :=
  [(.functionStart mixedTags, 1), (.throwNew ⟨"RangeException"⟩, 2)]

/-- A separator makes no other spelling, but a capital does; one of the two is useless. -/
theorem unused_reports_name_spellings_once_mixed :
    small.hierarchy = smallRegistry.hierarchy ∧
    ∃ s t found, small.run .start mixedUnit = (none, s) ∧
      small.step s .functionEnd 3 = (.ok found, t) ∧
      found = [small.report 3 .unusedThrows [⟨"LogicException"⟩],
        small.report 3 .unusedThrows [⟨"logicexception"⟩]] ∧
      ∃ before contract startLine body,
        mixedUnit = before ++ (.functionStart contract, startLine) :: body ∧ Innermost body ∧
        (small.report startLine .uselessThrows [⟨"LogicException"⟩]
            ∈ small.uselessTags contract startLine ∨
          small.report startLine .uselessThrows [⟨"logicexception"⟩]
            ∈ small.uselessTags contract startLine) := by
  have hregistry : small.hierarchy = smallRegistry.hierarchy := rfl
  have haccepted : (small.run .start mixedUnit).1 = none := by decide +kernel
  have hrun := run_eq_of_fst haccepted
  have hreports : small.unusedReports mixedTags [(.throwNew ⟨"RangeException"⟩, 2)] 3
      = [small.report 3 .unusedThrows [⟨"LogicException"⟩],
        small.report 3 .unusedThrows [⟨"logicexception"⟩]] := by
    decide +kernel
  obtain ⟨t, hend⟩ := step_functionEnd_of_accepted haccepted (.throwing .nil) 3
  rw [hreports] at hend
  obtain ⟨before, contract, startLine, body, -, -, types, hnodes, hbody, -, -, hfound, -, -, -,
    huseless, -⟩ := unused_reports_name_spellings_once small hregistry hrun hend
  have hnamed {type : ClassName} (h : small.report 3 .unusedThrows [type]
      ∈ types.map fun type => small.report 3 .unusedThrows [type]) : type ∈ types := by
    obtain ⟨other, hother, heq⟩ := List.mem_map.1 h
    cases heq
    exact hother
  rw [← hfound] at hnamed
  exact ⟨hregistry, _, _, _, hrun, hend, rfl, before, contract, startLine, body, hnodes, hbody,
    huseless _ (hnamed (by simp)) _ (hnamed (by simp)) (by decide) (by decide +kernel)⟩

/-- A function that spells one class in two ways and throws nothing. -/
def spelledTwice : Contract :=
  ⟨.closure, [⟨"LogicException", none⟩, ⟨"logicexception", none⟩]⟩

/-- Unused reports may name a class twice: both spellings of it are reported. -/
theorem unused_reports_repeat_class :
    small.hierarchy = smallRegistry.hierarchy ∧
    ∃ s t found, small.run .start [(.functionStart spelledTwice, 1)] = (none, s) ∧
      small.step s .functionEnd 2 = (.ok found, t) ∧
      found = [small.report 2 .unusedThrows [⟨"LogicException"⟩],
        small.report 2 .unusedThrows [⟨"logicexception"⟩]] ∧
      ¬ found.Pairwise fun d e =>
        ∀ a ∈ d.names, ∀ b ∈ e.names, small.hierarchy.isSameClass a b = false := by
  have haccepted : (small.run .start [(.functionStart spelledTwice, 1)]).1 = none := by
    decide +kernel
  have hrun := run_eq_of_fst haccepted
  have hreports : small.unusedReports spelledTwice [] 2
      = [small.report 2 .unusedThrows [⟨"LogicException"⟩],
        small.report 2 .unusedThrows [⟨"logicexception"⟩]] := by
    decide +kernel
  obtain ⟨t, hend⟩ := step_functionEnd_of_accepted haccepted .nil 2
  rw [hreports] at hend
  refine ⟨rfl, _, _, _, hrun, hend, rfl, ?_⟩
  intro hpairwise
  have hdifferent := List.rel_of_pairwise_cons hpairwise List.mem_cons_self ⟨"LogicException"⟩
    List.mem_cons_self ⟨"logicexception"⟩ List.mem_cons_self
  exact absurd hdifferent (by decide +kernel)

end Checker

end ExceptionFlow
