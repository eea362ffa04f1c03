import ExceptionFlow.Proofs.ArgumentErrors
import ExceptionFlow.Proofs.Lists
import ExceptionFlow.Proofs.NearestMethod
import ExceptionFlow.Proofs.UnionOperands

set_option autoImplicit false

/-! # The case of names

Names are compared without regard to ASCII case, so writing a construct with other capitals must not
change what it throws. `Construct.Recased` relates two constructs that differ in the case of letters
in names, at each occurrence on its own; `ThrowModel.infer_recased` says that the same types are
inferred for both, in the same order.

Every look-up goes by a key (`Symbol.caseless_congr`, `Symbol.functionKey_congr`), and in a registry
all questions about a class are questions about its key. The one place that tells spellings apart is
the list of the classes of a value, where each spelling stands once. Different spellings may become
one, and one may become several, so these lists can have different lengths; but what is collected
over them is gathered over the atoms of the type (`ThrowModel.collect_classNames`), and the atoms
correspond one to one. -/

namespace ExceptionFlow

/-! ## Texts -/

namespace Text

/-- The same character, or the same letter in the other case. -/
def Recased (c d : Char) : Prop := d = c ∨ d = c.toLower ∨ d = c.toUpper

instance (c d : Char) : Decidable (Recased c d) :=
  inferInstanceAs (Decidable (d = c ∨ d = c.toLower ∨ d = c.toUpper))

theorem toNat_toLower (c : Char) :
    c.toLower.toNat = if 65 ≤ c.toNat ∧ c.toNat ≤ 90 then c.toNat + 32 else c.toNat := by
  have hupper : (c.val ≥ 'A'.val ∧ c.val ≤ 'Z'.val) ↔ 65 ≤ c.toNat ∧ c.toNat ≤ 90 := by
    simp [UInt32.le_iff_toNat_le]
  have hshift : ('a'.val - 'A'.val).toNat = 32 := by decide
  unfold Char.toLower
  by_cases h : c.val ≥ 'A'.val ∧ c.val ≤ 'Z'.val
  · have hcode := hupper.1 h
    rw [dif_pos h, if_pos hcode, Char.toNat, UInt32.toNat_add, hshift, Char.toNat_val]
    omega
  · rw [dif_neg h, if_neg (mt hupper.2 h)]

theorem toNat_toUpper (c : Char) :
    c.toUpper.toNat = if 97 ≤ c.toNat ∧ c.toNat ≤ 122 then c.toNat - 32 else c.toNat := by
  have hlower : ('a'.val ≤ c.val ∧ c.val ≤ 'z'.val) ↔ 97 ≤ c.toNat ∧ c.toNat ≤ 122 := by
    simp [UInt32.le_iff_toNat_le]
  -- the distance is added, so the sum goes once around the codes of 32 bits
  have hshift : ('A'.val - 'a'.val).toNat = 4294967264 := by decide
  unfold Char.toUpper
  by_cases h : 'a'.val ≤ c.val ∧ c.val ≤ 'z'.val
  · have hcode := hlower.1 h
    rw [dif_pos h, if_pos hcode, Char.toNat, UInt32.toNat_add, hshift, Char.toNat_val]
    omega
  · rw [dif_neg h, if_neg (mt hlower.2 h)]

theorem isAlpha_iff {c : Char} :
    c.isAlpha = true ↔ 65 ≤ c.toNat ∧ c.toNat ≤ 90 ∨ 97 ≤ c.toNat ∧ c.toNat ≤ 122 := by
  have hcodes : c.isAlpha = (decide (c.val ≥ 'A'.val ∧ c.val ≤ 'Z'.val) ||
      (decide (c.val ≥ 'a'.val) && decide (c.val ≤ 'z'.val))) := rfl
  rw [hcodes]
  simp [UInt32.le_iff_toNat_le]

theorem Recased.toLower_eq {c d : Char} (h : Recased c d) : c.toLower = d.toLower := by
  rw [← Char.toNat_inj, toNat_toLower, toNat_toLower]
  rcases h with rfl | rfl | rfl
  · rfl
  · rw [toNat_toLower]
    grind
  · rw [toNat_toUpper]
    grind

/-- A test that no letter passes does not depend on the case. -/
theorem test_toLower {test : Char → Bool} (htest : ∀ c, c.isAlpha = true → test c = false) :
    test ∘ Char.toLower = test := by
  funext c
  rw [Function.comp_apply]
  have hcode := toNat_toLower c
  by_cases hupper : 65 ≤ c.toNat ∧ c.toNat ≤ 90
  · rw [if_pos hupper] at hcode
    rw [htest c (isAlpha_iff.2 (.inl hupper)), htest _ (isAlpha_iff.2 (.inr (by omega)))]
  · rw [if_neg hupper, Char.toNat_inj] at hcode
    rw [hcode]

theorem isBlank_of_isAlpha (c : Char) (h : c.isAlpha = true) : isBlank c = false := by
  have hcode := isAlpha_iff.1 h
  have hnone : ¬ blanks.contains c = true := by
    simp only [CharSet.contains_iff, blanks, List.mem_cons, List.not_mem_nil, or_false,
      exists_eq_or_imp, exists_eq_left]
    omega
  exact Bool.eq_false_iff.2 hnone

end Text

namespace Symbol

/-- The same text but for the case of letters. -/
def Recased (s t : String) : Prop := List.Forall₂ Text.Recased s.toList t.toList

instance (s t : String) : Decidable (Recased s t) :=
  inferInstanceAs (Decidable (List.Forall₂ Text.Recased s.toList t.toList))

variable {s t : String}

theorem caseless_congr (h : Recased s t) : caseless s = caseless t := by
  have hmap {cs ds : List Char} (hcs : List.Forall₂ Text.Recased cs ds) :
      cs.map Char.toLower = ds.map Char.toLower := by
    induction hcs with
    | nil => rfl
    | cons hc _ ih => rw [List.map_cons, List.map_cons, hc.toLower_eq, ih]
  rw [caseless, caseless, hmap h]

/-- Blanks and separators are no letters, so they can be taken off after the case. -/
theorem functionKey_eq_canonical (s : String) : functionKey s = canonical (caseless s) := by
  have hblank := Text.test_toLower Text.isBlank_of_isAlpha
  have hseparator : (fun c => c == '\\') ∘ Char.toLower = fun c => c == '\\' := by
    apply Text.test_toLower
    intro c hletter
    apply beq_false_of_ne
    rintro rfl
    exact absurd hletter (by decide)
  simp only [functionKey, caseless, canonical, Text.trim, String.toList_ofList, List.dropWhile_map,
    hblank, hseparator, ← List.map_reverse]

theorem functionKey_congr (h : Recased s t) : functionKey s = functionKey t := by
  rw [functionKey_eq_canonical, functionKey_eq_canonical, caseless_congr h]

end Symbol

/-! ## Constructs -/

/-- The same class name but for the case of letters. -/
def ClassName.Recased (a b : ClassName) : Prop := Symbol.Recased a.text b.text

theorem ClassName.Recased.key_eq {a b : ClassName} (h : a.Recased b) : a.key = b.key :=
  Symbol.caseless_congr h

/-- The same atom, or objects of one class by its name in another case. -/
inductive Atom.Recased : Atom → Atom → Prop where
  | refl (a : Atom) : Recased a a
  | object {a b : ClassName} : a.Recased b → Recased (.object a) (.object b)

mutual
/-- The same type but for the case of letters in class names. -/
inductive StaticType.Recased : StaticType → StaticType → Prop where
  | atom {a b : Atom} : a.Recased b → Recased (.atom a) (.atom b)
  | union {ts us : List StaticType} : RecasedAll ts us → Recased (.union ts) (.union us)
/-- The same types, one by one, but for the case of letters in class names. -/
inductive StaticType.RecasedAll : List StaticType → List StaticType → Prop where
  | nil : RecasedAll [] []
  | cons {t u : StaticType} {ts us : List StaticType} :
      Recased t u → RecasedAll ts us → RecasedAll (t :: ts) (u :: us)
end

/-- The same construct but for the case of letters in the names of classes, methods and functions.
    -/
inductive Construct.Recased : Construct → Construct → Prop where
  | throw {value value' : StaticType} :
      value.Recased value' → Recased (.throw value) (.throw value')
  | methodCall {receiver receiver' : StaticType} {method method' : String} :
      receiver.Recased receiver' → Symbol.Recased method method' →
      Recased (.methodCall receiver method) (.methodCall receiver' method')
  | staticCall {owner owner' : ClassName} {method method' : String} :
      owner.Recased owner' → Symbol.Recased method method' →
      Recased (.staticCall owner method) (.staticCall owner' method')
  | new {owner owner' : ClassName} : owner.Recased owner' → Recased (.new owner) (.new owner')
  | division {divisor divisor' : StaticType} :
      divisor.Recased divisor' → Recased (.division divisor) (.division divisor')
  | shift {amount amount' : StaticType} :
      amount.Recased amount' → Recased (.shift amount) (.shift amount')
  | iteration {subject subject' : StaticType} (bindsKey : Bool) :
      subject.Recased subject' →
      Recased (.iteration subject bindsKey) (.iteration subject' bindsKey)
  | call {name name' : String} {args args' : List StaticType} :
      Symbol.Recased name name' → StaticType.RecasedAll args args' →
      Recased (.call name args) (.call name' args')

/-! ## Operands -/

namespace StaticType

mutual
/-- The atoms correspond one to one. -/
theorem Recased.members {t u : StaticType} :
    t.Recased u → List.Forall₂ Atom.Recased t.members u.members
  | .atom h => .cons h .nil
  | .union h => h.members
theorem RecasedAll.members {ts us : List StaticType} :
    RecasedAll ts us → List.Forall₂ Atom.Recased (membersAll ts) (membersAll us)
  | .nil => .nil
  | .cons h hrest => List.rel_append h.members hrest.members
end

/-- An object may be any integer, whatever its class. -/
theorem Recased.intValues_eq {t u : StaticType} (h : t.Recased u) : t.intValues = u.intValues := by
  have hatom {a b : Atom} (hab : a.Recased b) (values : IntValues) :
      values.addAtom a = values.addAtom b := by
    cases hab <;> rfl
  have hfold {as bs : List Atom} (has : List.Forall₂ Atom.Recased as bs) (values : IntValues) :
      as.foldl .addAtom values = bs.foldl .addAtom values := by
    induction has generalizing values with
    | nil => rfl
    | cons hab _ ih => rw [List.foldl_cons, List.foldl_cons, hatom hab, ih]
  exact hfold h.members .none

theorem RecasedAll.getElem? {ts us : List StaticType} (h : RecasedAll ts us) (i : Nat) :
    ts[i]?.map intValues = us[i]?.map intValues := by
  have hmap : ts.map intValues = us.map intValues := by
    induction ts generalizing us with
    | nil =>
      cases h
      rfl
    | cons t rest ih =>
      cases h with
      | cons ht hrest => rw [List.map_cons, List.map_cons, ht.intValues_eq, ih hrest]
  rw [← List.getElem?_map, ← List.getElem?_map, hmap]

end StaticType

/-- What is collected over the classes of a value depends on their keys, whatever spellings are told
    apart on the way. -/
theorem ThrowModel.collect_recased {found found' : ClassName → TypeSet} {t u : StaticType}
    (h : t.Recased u) (hfound : ∀ a b : ClassName, a.key = b.key → found a = found' b) :
    collect found t.classNames = collect found' u.classNames := by
  rw [collect_classNames, collect_classNames]
  refine congrArg TypeSet.ofList (flatMap_congr_forall₂ h.members ?_)
  intro a b hab
  cases hab with
  | refl => simp only [hfound _ _ rfl]
  | object hname => simp only [Atom.className?, Option.toList_some, List.flatMap_cons,
      List.flatMap_nil, hfound _ _ hname.key_eq]

/-! ## Look-ups by key -/

namespace Registry

variable {r : Registry} {a b : ClassName} {method method' : String}

theorem findSome?_upwards_congr {β : Type} (at? : String → Option β) (h : a.key = b.key) :
    ((r.hierarchy.upwards a).findSome? fun c => at? c.key)
      = (r.hierarchy.upwards b).findSome? fun c => at? c.key := by
  have hancestors : r.hierarchy.ancestors a = r.hierarchy.ancestors b := by
    rw [Hierarchy.ancestors, Hierarchy.ancestors, find?_congr h]
  rw [Hierarchy.upwards, Hierarchy.upwards, List.findSome?_cons, List.findSome?_cons, h, hancestors]

theorem findMethod?_congr (h : a.key = b.key)
    (hmethod : Symbol.caseless method = Symbol.caseless method') :
    r.hierarchy.findMethod? a method = r.hierarchy.findMethod? b method' := by
  have hat : r.methodAt? method = r.methodAt? method' := by
    funext k
    simp only [methodAt?, ClassDecl.ownMethod?, hmethod]
  rw [findMethod?_eq_findSome?, findMethod?_eq_findSome?, hat, findSome?_upwards_congr _ h]

theorem configured_congr (d : Defaults) (h : a.key = b.key)
    (hmethod : Symbol.caseless method = Symbol.caseless method') :
    d.method? r.hierarchy a method = d.method? r.hierarchy b method' := by
  have hat : d.methodAt? method = d.methodAt? method' := by
    funext k
    simp only [Defaults.methodAt?, hmethod]
  rw [Defaults.method?_eq_findSome?, Defaults.method?_eq_findSome?, hat,
    findSome?_upwards_congr _ h]

end Registry

namespace ThrowModel

variable {r : Registry} {d : Defaults} {a b : ClassName} {method method' : String}

theorem method?_congr (h : a.key = b.key)
    (hmethod : Symbol.caseless method = Symbol.caseless method') :
    (standard r d).method? a method = (standard r d).method? b method' := by
  unfold method?
  rw [hierarchy_standard, Registry.configured_congr _ h hmethod,
    Registry.findMethod?_congr h hmethod]

theorem methodTypes_congr (h : a.key = b.key)
    (hmethod : Symbol.caseless method = Symbol.caseless method') :
    (standard r d).methodTypes a method = (standard r d).methodTypes b method' := by
  rw [methodTypes, methodTypes, method?_congr h hmethod]

theorem callTypes_congr (h : a.key = b.key)
    (hmethod : Symbol.caseless method = Symbol.caseless method') (fallback : String) :
    (standard r d).callTypes a method fallback = (standard r d).callTypes b method' fallback := by
  rw [callTypes, callTypes, method?_congr h hmethod, methodTypes_congr h rfl]

theorem implements_congr (h : a.key = b.key) (iface : String) :
    (standard r d).implements a iface = (standard r d).implements b iface := by
  unfold implements
  rw [hierarchy_standard, Bool.eq_iff_iff, Registry.isSameOrSubclass_iff,
    Registry.isSameOrSubclass_iff, h]

/-! ## Protocols and refinements -/

section Operands

variable {subject subject' : StaticType} {args args' : List StaticType}

theorem iterationTypes_recased (h : subject.Recased subject') (bindsKey : Bool) :
    (standard r d).iterationTypes subject bindsKey
      = (standard r d).iterationTypes subject' bindsKey := by
  refine collect_recased h ?_
  intro a b hkey
  have hmethods : (standard r d).iterationMethods a bindsKey
      = (standard r d).iterationMethods b bindsKey := by
    simp only [iterationMethods, implements_congr hkey]
  have htypes : (standard r d).methodTypes a = (standard r d).methodTypes b :=
    funext fun method => methodTypes_congr hkey rfl
  rw [hmethods, htypes]

theorem implementedTypes_recased (h : subject.Recased subject') (iface method : String) :
    (standard r d).implementedTypes subject iface method
      = (standard r d).implementedTypes subject' iface method := by
  refine collect_recased h ?_
  intro a b hkey
  rw [implements_congr hkey, methodTypes_congr hkey rfl]

theorem protocolTypes_recased (function : String) (h : StaticType.RecasedAll args args') :
    (standard r d).protocolTypes function args = (standard r d).protocolTypes function args' := by
  cases h with
  | nil => rfl
  | cons hsubject hrest =>
    simp only [protocolTypes]
    split
    · rw [iterationTypes_recased hsubject]
      -- a constant that drops the keys is written without a name
      cases hrest with
      | nil => rfl
      | cons hsecond _ =>
        cases hsecond with
        | union _ => rfl
        | @atom second _ hatom =>
          cases hatom with
          | object _ => rfl
          | refl =>
            cases second with
            | boolConst value => cases value <;> rfl
            | _ => rfl
    · exact iterationTypes_recased hsubject false
    · exact iterationTypes_recased hsubject false
    · exact implementedTypes_recased hsubject _ _
    · exact implementedTypes_recased hsubject _ _
    · rfl

theorem refine_integerDivision_recased (function : String) (known : TypeSet)
    (h : StaticType.RecasedAll args args') :
    Refinement.integerDivision.refine ⟨function, args⟩ known
      = Refinement.integerDivision.refine ⟨function, args'⟩ known := by
  cases h with
  | nil => rfl
  | cons hdividend hrest =>
    cases hrest with
    | nil => rfl
    | cons hdivisor _ =>
      simp only [Refinement.integerDivision, CallSite.arg, List.getElem?_cons_zero,
        List.getElem?_cons_succ, hdividend.intValues_eq, hdivisor.intValues_eq]

theorem refine_json_recased (function : String) (known : TypeSet)
    (h : StaticType.RecasedAll args args') :
    Refinement.json.refine ⟨function, args⟩ known
      = Refinement.json.refine ⟨function, args'⟩ known := by
  have hempty : args.isEmpty = args'.isEmpty := by
    cases h <;> rfl
  have hflags := h.getElem? (Refinement.flagsPosition function)
  simp only [Refinement.json, hempty]
  cases hleft : args[Refinement.flagsPosition function]? with
  | none =>
    cases hright : args'[Refinement.flagsPosition function]? with
    | none => rfl
    | some flags' => simp [hleft, hright] at hflags
  | some flags =>
    cases hright : args'[Refinement.flagsPosition function]? with
    | none => simp [hleft, hright] at hflags
    | some flags' =>
      rw [hleft, hright, Option.map_some, Option.map_some, Option.some.injEq] at hflags
      simp only [hflags]

theorem functionTypes_recased {name name' : String} (hname : Symbol.Recased name name')
    (h : StaticType.RecasedAll args args') :
    (standard r d).functionTypes name args = (standard r d).functionTypes name' args' := by
  simp only [functionTypes, Symbol.functionKey_congr hname, refinements_standard, List.foldl_cons,
    List.foldl_nil, refineBy, refine_integerDivision_recased _ _ h, refine_json_recased _ _ h,
    protocolTypes_recased _ h]

end Operands

/-- **The case of names does not matter.** Two constructs that differ in the case of letters in the
    names of classes, methods and functions throw the same types, in the same order. -/
theorem infer_recased (r : Registry) (d : Defaults) {c c' : Construct} (h : c.Recased c') :
    (standard r d).infer c = (standard r d).infer c' := by
  cases h with
  | throw hvalue =>
    simp only [infer, thrownTypes_eq_collect]
    refine collect_recased hvalue ?_
    intro a b hkey
    rw [Hierarchy.resolve?, Hierarchy.resolve?, hierarchy_standard, Registry.find?_congr hkey]
  | methodCall hreceiver hmethod =>
    refine collect_recased hreceiver ?_
    intro a b hkey
    exact callTypes_congr hkey (Symbol.caseless_congr hmethod) "__call"
  | staticCall howner hmethod =>
    exact callTypes_congr howner.key_eq (Symbol.caseless_congr hmethod) "__callStatic"
  | new howner => exact methodTypes_congr howner.key_eq rfl
  | division hdivisor => simp only [infer, divisionTypes, hdivisor.intValues_eq]
  | shift hamount => simp only [infer, shiftTypes, hamount.intValues_eq]
  | iteration bindsKey hsubject => exact iterationTypes_recased hsubject bindsKey
  | call hname hargs => exact functionTypes_recased hname hargs

/-- A call on one of two classes, one of which is written in two ways. -/
def closeEither : Construct :=
  .methodCall (.union [.object ⟨"Cursor"⟩, .union [.object ⟨"Reader"⟩], .object ⟨"CURSOR"⟩]) "close"

/-- The same call with both classes written in one way. -/
def closeEitherRecased : Construct :=
  .methodCall (.union [.object ⟨"cursor"⟩, .union [.object ⟨"READER"⟩], .object ⟨"cursor"⟩]) "CLOSE"

/-- Three spellings of classes become two, and the same types are found by them. -/
theorem infer_recased_closeEither :
    closeEither.Recased closeEitherRecased ∧
    (standard Registry.streams ⟨∅, ∅⟩).infer closeEither
      = (standard Registry.streams ⟨∅, ∅⟩).infer closeEitherRecased ∧
    ((standard Registry.streams ⟨∅, ∅⟩).infer closeEitherRecased).toList
      = [⟨"CloseError"⟩, ⟨"StreamError"⟩] := by
  have hcursor : Symbol.Recased "Cursor" "cursor" := by decide
  have hreader : Symbol.Recased "Reader" "READER" := by decide
  have hshouted : Symbol.Recased "CURSOR" "cursor" := by decide
  have hcalls : closeEither.Recased closeEitherRecased :=
    .methodCall
      (.union (.cons (.atom (.object hcursor))
        (.cons (.union (.cons (.atom (.object hreader)) .nil))
          (.cons (.atom (.object hshouted)) .nil))))
      (by decide)
  exact ⟨hcalls, infer_recased Registry.streams ⟨∅, ∅⟩ hcalls, by decide +kernel⟩

end ThrowModel

end ExceptionFlow
