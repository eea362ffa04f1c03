import Mathlib.Data.List.Basic
import ExceptionFlow.Proofs.IntegerValues

set_option autoImplicit false

/-! # Operands that are unions

What is inferred for an operand is gathered over the atoms of its type: some list of names for each
atom, all inserted one after the other (`Memberwise`). Such a result distributes over unions, since
a name that comes again is where it came first, and the atoms of a union are those of its members in
turn (`Memberwise.distributes`).

The rules for operands do not look like this at once. Class names are taken without repetition
before anything is looked up for them; but one spelling is always looked up alike, so that leaving
out its repetitions changes nothing (`collect_classNames`). The rules for numbers ask one question
of the whole operand; but the answer is yes exactly if it is yes for one of the atoms
(`IntValues.admits_intValues`), and what they insert is always the same name. -/

namespace ExceptionFlow

/-! ## Inserting in order -/

namespace TypeSet

theorem insert_of_mem {s : TypeSet} {name : ClassName} (h : name ∈ s) : s.insert name = s := by
  ext1
  rw [toList_insert, if_pos (mem_def.1 h)]

theorem insertAll_cons (s : TypeSet) (name : ClassName) (names : List ClassName) :
    s.insertAll (name :: names) = (s.insert name).insertAll names := rfl

/-- Names that are members already change nothing. -/
theorem insertAll_of_subset {s : TypeSet} {names : List ClassName} (h : ∀ name ∈ names, name ∈ s) :
    s.insertAll names = s := by
  induction names with
  | nil => rfl
  | cons name rest ih =>
    obtain ⟨hname, hrest⟩ := List.forall_mem_cons.1 h
    rw [insertAll_cons, insert_of_mem hname, ih hrest]

/-- Inserting what another set becomes is inserting its members and then what it gets. -/
theorem insertAll_toList_insertAll (s t : TypeSet) (names : List ClassName) :
    s.insertAll (t.insertAll names).toList = (s.insertAll t.toList).insertAll names := by
  induction names generalizing t with
  | nil => rfl
  | cons name rest ih =>
    have hstep : s.insertAll (t.insert name).toList = (s.insertAll t.toList).insert name := by
      rw [toList_insert]
      split
      · rename_i hmem
        rw [insert_of_mem (mem_insertAll.2 (.inr hmem))]
      · rw [← insertAll_append]
        rfl
    rw [insertAll_cons, ih, hstep, insertAll_cons]

theorem union_ofList (s : TypeSet) (names : List ClassName) :
    s ∪ ofList names = s.insertAll names :=
  insertAll_toList_insertAll s ∅ names

theorem insertAll_flatMap_single {α : Type} (s : TypeSet) (name : ClassName) (test : α → Bool)
    (items : List α) :
    s.insertAll (items.flatMap fun i => if test i then [name] else [])
      = if items.any test then s.insert name else s := by
  induction items generalizing s with
  | nil => rfl
  | cons i rest ih =>
    rw [List.flatMap_cons, ← insertAll_append, ih, List.any_cons]
    cases test i with
    | false => simp [insertAll]
    | true =>
      have hagain : (s.insert name).insert name = s.insert name :=
        insert_of_mem (mem_insert.2 (.inr rfl))
      simp [insertAll, hagain]

end TypeSet

/-! ## Distribution -/

/-- What is found for a union is what is found for its members, one after the other. -/
def DistributesOverUnions (found : StaticType → TypeSet) : Prop :=
  ∀ ts, found (.union ts) = (ts.map found).foldl (· ∪ ·) ∅

/-- What is found for a type is gathered over its atoms. -/
def Memberwise (found : StaticType → TypeSet) : Prop :=
  ∃ names : Atom → List ClassName, ∀ t, found t = .ofList (t.members.flatMap names)

theorem StaticType.membersAll_eq_flatMap (ts : List StaticType) :
    membersAll ts = ts.flatMap members := by
  induction ts with
  | nil => rfl
  | cons t rest ih => rw [membersAll, ih, List.flatMap_cons]

theorem foldl_union_ofList (names : StaticType → List ClassName) (ts : List StaticType)
    (s : TypeSet) :
    (ts.map fun t => TypeSet.ofList (names t)).foldl (· ∪ ·) s
      = s.insertAll (ts.flatMap names) := by
  induction ts generalizing s with
  | nil => rfl
  | cons t rest ih =>
    rw [List.map_cons, List.foldl_cons, ih, TypeSet.union_ofList, TypeSet.insertAll_append,
      List.flatMap_cons]

theorem Memberwise.distributes {found : StaticType → TypeSet} (h : Memberwise found) :
    DistributesOverUnions found := by
  obtain ⟨names, hfound⟩ := h
  intro ts
  have hmap : ts.map found = ts.map fun t => .ofList (t.members.flatMap names) :=
    List.map_congr_left fun t _ => hfound t
  rw [hmap, foldl_union_ofList, hfound, StaticType.members, StaticType.membersAll_eq_flatMap,
    List.flatMap_assoc]
  rfl

/-! ## Class names -/

theorem insertAll_flatMap_appendNew (s : TypeSet) (names : ClassName → List ClassName)
    (known more : List ClassName) :
    s.insertAll ((more.foldl appendNew known).flatMap names)
      = s.insertAll ((known ++ more).flatMap names) := by
  induction more generalizing known with
  | nil => rw [List.foldl_nil, List.append_nil]
  | cons name rest ih =>
    rw [List.foldl_cons, ih]
    unfold appendNew
    split
    · rename_i hmem
      -- the repeated name finds everything that it would insert
      have hfound : (s.insertAll (known.flatMap names)).insertAll (names name)
          = s.insertAll (known.flatMap names) := by
        apply TypeSet.insertAll_of_subset
        intro found hin
        exact TypeSet.mem_insertAll.2 (.inr (List.mem_flatMap.2 ⟨name, hmem, hin⟩))
      rw [List.flatMap_append, List.flatMap_append, List.flatMap_cons, ← TypeSet.insertAll_append,
        ← TypeSet.insertAll_append, ← TypeSet.insertAll_append, hfound]
    · rw [List.append_assoc, List.singleton_append]

namespace ThrowModel

theorem foldl_collect {α : Type} (found : α → TypeSet) (items : List α) (s : TypeSet) :
    items.foldl (fun types item => types ∪ found item) s
      = s.insertAll (items.flatMap fun i => (found i).toList) := by
  induction items generalizing s with
  | nil => rfl
  | cons i rest ih =>
    rw [List.foldl_cons, ih, List.flatMap_cons, ← TypeSet.insertAll_append]
    rfl

theorem mem_collect {α : Type} {found : α → TypeSet} {items : List α} {x : ClassName} :
    x ∈ collect found items ↔ ∃ i ∈ items, x ∈ found i := by
  rw [collect, foldl_collect, TypeSet.mem_insertAll, List.mem_flatMap]
  constructor
  · intro h
    exact h.resolve_left List.not_mem_nil
  · exact Or.inr

/-- What is collected for the classes of a value is gathered over its atoms, repetitions included.
    -/
theorem collect_classNames (found : ClassName → TypeSet) (t : StaticType) :
    collect found t.classNames
      = .ofList (t.members.flatMap fun a =>
          a.className?.toList.flatMap fun name => (found name).toList) := by
  rw [collect, foldl_collect, StaticType.classNames, insertAll_flatMap_appendNew, List.nil_append,
    List.filterMap_eq_flatMap_toList, List.flatMap_assoc]
  rfl

theorem memberwise_collect (found : ClassName → TypeSet) :
    Memberwise fun t => collect found t.classNames :=
  ⟨_, collect_classNames found⟩

/-! ## The rules -/

variable (M : ThrowModel)

theorem thrownTypes_eq_collect (value : StaticType) :
    M.thrownTypes value
      = collect (fun name => .ofList (M.hierarchy.resolve? name).toList) value.classNames := by
  have htoList (name : ClassName) : (TypeSet.ofList (M.hierarchy.resolve? name).toList).toList
      = (M.hierarchy.resolve? name).toList := by
    cases M.hierarchy.resolve? name <;> rfl
  rw [thrownTypes, collect, foldl_collect, List.filterMap_eq_flatMap_toList]
  simp only [htoList]
  rfl

theorem memberwise_thrownTypes : Memberwise M.thrownTypes := by
  rw [funext M.thrownTypes_eq_collect]
  exact memberwise_collect _

/-- A rule that inserts one name if the answer to a question about integers is yes. -/
theorem memberwise_admits (constant : Int64 → Bool) (range : Interval → Bool) (name : ClassName) :
    Memberwise fun t => if t.intValues.admits constant range then .single name else ∅ := by
  refine ⟨fun a => if a.admits constant range then [name] else [], ?_⟩
  intro t
  simp only [IntValues.admits_intValues, TypeSet.ofList, TypeSet.insertAll_flatMap_single]
  rfl

theorem memberwise_divisionTypes : Memberwise M.divisionTypes := by
  unfold Memberwise divisionTypes
  simp only [IntValues.mayBe_eq_admits]
  exact memberwise_admits _ _ _

theorem memberwise_shiftTypes : Memberwise M.shiftTypes := memberwise_admits _ _ _

theorem memberwise_iterationTypes (bindsKey : Bool) :
    Memberwise fun subject => M.iterationTypes subject bindsKey :=
  memberwise_collect _

theorem memberwise_implementedTypes (iface method : String) :
    Memberwise fun subject => M.implementedTypes subject iface method :=
  memberwise_collect _

theorem memberwise_protocolTypes (function : String) (rest : List StaticType) :
    Memberwise fun subject => M.protocolTypes function (subject :: rest) := by
  simp only [protocolTypes]
  split
  · exact M.memberwise_iterationTypes _
  · exact M.memberwise_iterationTypes _
  · exact M.memberwise_iterationTypes _
  · exact M.memberwise_implementedTypes _ _
  · exact M.memberwise_implementedTypes _ _
  · refine ⟨fun _ => [], ?_⟩
    intro subject
    rw [List.flatMap_eq_nil_iff.2 fun _ _ => rfl]
    rfl

/-- A loop that asks for keys calls all the methods that one without them calls. -/
theorem iterationMethods_subset (owner : ClassName) :
    M.iterationMethods owner false ⊆ M.iterationMethods owner true := by
  unfold iterationMethods
  split
  · simp
  · exact List.Subset.refl _

theorem iterationTypes_subset (subject : StaticType) :
    (M.iterationTypes subject false).toList ⊆ (M.iterationTypes subject true).toList := by
  intro x hx
  obtain ⟨owner, howner, hfound⟩ := mem_collect.1 (TypeSet.mem_def.2 hx)
  obtain ⟨method, hmethod, hthrown⟩ := mem_collect.1 hfound
  refine mem_collect.2 ⟨owner, howner, mem_collect.2 ⟨method, ?_, hthrown⟩⟩
  exact M.iterationMethods_subset owner hmethod

/-- **Inference distributes over unions.** Whatever is thrown, called, looped over, divided by or
    shifted by: for a union, the types are those that are inferred for its members, one after the
    other. So are the types that a standard function throws because of the methods of its first
    argument. A loop that does not ask for keys throws nothing that it would not throw with them. -/
theorem infer_distributes_over_unions (M : ThrowModel) :
    DistributesOverUnions (fun value => M.infer (.throw value)) ∧
    (∀ method, DistributesOverUnions fun receiver => M.infer (.methodCall receiver method)) ∧
    (∀ bindsKey, DistributesOverUnions fun subject => M.infer (.iteration subject bindsKey)) ∧
    DistributesOverUnions (fun divisor => M.infer (.division divisor)) ∧
    DistributesOverUnions (fun amount => M.infer (.shift amount)) ∧
    (∀ function rest,
      DistributesOverUnions fun subject => M.protocolTypes function (subject :: rest)) ∧
    ∀ subject,
      (M.infer (.iteration subject false)).toList ⊆ (M.infer (.iteration subject true)).toList := by
  refine ⟨M.memberwise_thrownTypes.distributes, ?_, ?_, M.memberwise_divisionTypes.distributes,
    M.memberwise_shiftTypes.distributes, ?_, M.iterationTypes_subset⟩
  · intro method
    exact (memberwise_collect _).distributes
  · intro bindsKey
    exact (M.memberwise_iterationTypes bindsKey).distributes
  · intro function rest
    exact (M.memberwise_protocolTypes function rest).distributes

end ThrowModel

end ExceptionFlow
