import Mathlib.Data.Set.Basic
import ExceptionFlow.Inference
import ExceptionFlow.Registry.Standard

set_option autoImplicit false

/-! # The integers that an operand may be

The rules for numbers ask two questions of an operand: whether it may be a certain integer, and
whether it may be negative. They are answered from a summary that is collected over the members of
its type. Here a type gets a meaning of its own, the set of integers that its values may be
(`StaticType.values`), and the answers are compared with it.

Every question to a summary has one form: some remaining alternative may be anything, or a constant
passes a test, or a range passes another (`IntValues.admits`). Such a question is answered member by
member (`admits_intValues`), so a comparison with the meaning comes down to the single members. The
first question is answered exactly. The second looks at the lower ends of ranges only: it never
misses a negative value, but a range with its ends swapped has no value at all and may still be
taken to start below zero (`ThrowModel.numeric_rules_exact`). -/

namespace ExceptionFlow

/-! ## Meaning -/

/-- The integers between the ends of a range. An open end is no bound. -/
def Interval.values (r : Interval) : Set Int64 :=
  { v | (∀ least ∈ r.least, least ≤ v) ∧ ∀ greatest ∈ r.greatest, v ≤ greatest }

/-- The ends of a range are swapped. -/
def Interval.IsInverted (r : Interval) : Prop :=
  ∃ least ∈ r.least, ∃ greatest ∈ r.greatest, greatest < least

/-- The integers that a value may be. Whatever is no integer may be converted to any. -/
def Atom.values : Atom → Set Int64
  | .never => ∅
  | .intConst v => {v}
  | .intRange r => r.values
  | _ => Set.univ

namespace StaticType

mutual
/-- The integers that a value of the type may be. -/
def values : StaticType → Set Int64
  | .atom a => a.values
  | .union ts => valuesAny ts
/-- The integers that a value of one of the types may be. -/
def valuesAny : List StaticType → Set Int64
  | [] => ∅
  | t :: ts => t.values ∪ valuesAny ts
end

/-- A range with its ends swapped stands somewhere in the type. -/
def HasInvertedRange (t : StaticType) : Prop := ∃ r, .intRange r ∈ t.members ∧ r.IsInverted

mutual
/-- A type has the values of its members, however deep they are nested. -/
theorem mem_values_iff {v : Int64} : (t : StaticType) →
    (v ∈ t.values ↔ ∃ a ∈ t.members, v ∈ a.values)
  | .atom a => by simp [values, members]
  | .union ts => by
    rw [values, members]
    exact mem_valuesAny_iff ts
theorem mem_valuesAny_iff {v : Int64} : (ts : List StaticType) →
    (v ∈ valuesAny ts ↔ ∃ a ∈ membersAll ts, v ∈ a.values)
  | [] => by simp [valuesAny, membersAll]
  | t :: ts => by
    rw [valuesAny, membersAll, Set.mem_union, mem_values_iff t, mem_valuesAny_iff ts]
    simp only [List.mem_append, or_and_right, exists_or]
end

end StaticType

/-! ## Questions to a summary -/

/-- Whether a member passes the test that is meant for it. -/
def Atom.admits (constant : Int64 → Bool) (range : Interval → Bool) : Atom → Bool
  | .never => false
  | .intConst v => constant v
  | .intRange r => range r
  | _ => true

theorem any_appendNew {α : Type} [DecidableEq α] (p : α → Bool) (known : List α) (value : α) :
    (appendNew known value).any p = (known.any p || p value) := by
  unfold appendNew
  split
  · rename_i hmem
    cases hp : p value with
    | false => rw [Bool.or_false]
    | true => rw [Bool.or_true, List.any_eq_true.2 ⟨value, hmem, hp⟩]
  · rw [List.any_append, List.any_cons, List.any_nil, Bool.or_false]

namespace IntValues

/-- Whether an alternative remains that may be anything, or a constant or a range passes its test.
    -/
def admits (constant : Int64 → Bool) (range : Interval → Bool) (values : IntValues) : Bool :=
  values.residual || values.constants.any constant || values.ranges.any range

variable (constant : Int64 → Bool) (range : Interval → Bool)

theorem mayBe_eq_admits (values : IntValues) (v : Int64) :
    values.mayBe v = values.admits (fun c => decide (v = c)) (·.contains v) := by
  have hmem : decide (v ∈ values.constants) = values.constants.any fun c => decide (v = c) := by
    rw [Bool.eq_iff_iff]
    simp
  rw [mayBe, admits, hmem]

theorem mayBeNegative_eq_admits (values : IntValues) :
    values.mayBeNegative = values.admits (fun c => decide (c < 0)) Interval.startsNegative := rfl

/-- One more member is one more chance to pass. -/
theorem admits_addAtom (values : IntValues) (a : Atom) :
    (values.addAtom a).admits constant range
      = (values.admits constant range || a.admits constant range) := by
  cases a with
  | never => simp [addAtom, Atom.admits]
  | intConst v =>
    simp only [addAtom, admits, Atom.admits, any_appendNew]
    ac_rfl
  | intRange r =>
    simp only [addAtom, admits, Atom.admits, List.any_append, List.any_cons, List.any_nil,
      Bool.or_false]
    ac_rfl
  | _ => simp [addAtom, admits, Atom.admits]

theorem admits_foldl_addAtom (atoms : List Atom) (values : IntValues) :
    (atoms.foldl addAtom values).admits constant range
      = (values.admits constant range || atoms.any fun a => a.admits constant range) := by
  induction atoms generalizing values with
  | nil => simp
  | cons a rest ih => rw [List.foldl_cons, ih, admits_addAtom, List.any_cons, Bool.or_assoc]

/-- A question to the summary of a type is a question to its members. -/
theorem admits_intValues (t : StaticType) :
    t.intValues.admits constant range = t.members.any fun a => a.admits constant range := by
  rw [StaticType.intValues, admits_foldl_addAtom]
  rfl

end IntValues

/-! ## The answers -/

namespace Interval

variable {r : Interval} {v : Int64}

theorem contains_iff : r.contains v = true ↔ v ∈ r.values := by
  simp only [contains, Bool.and_eq_true, Option.all_eq_true, decide_eq_true_eq]
  rfl

theorem startsNegative_iff : r.startsNegative = true ↔ ∀ least ∈ r.least, least < 0 := by
  simp only [startsNegative, Option.all_eq_true, decide_eq_true_eq, Option.mem_def]

/-- A range with a negative value starts below zero. -/
theorem startsNegative_of_mem (hv : v ∈ r.values) (hneg : v < 0) : r.startsNegative = true := by
  rw [startsNegative_iff]
  intro least hleast
  exact Int64.lt_of_le_of_lt (hv.1 least hleast) hneg

/-- A range that starts below zero has a negative value, unless its ends are swapped: its lower end,
    or the least integer of all. -/
theorem exists_negative (hr : ¬ r.IsInverted) (hneg : r.startsNegative = true) :
    ∃ v ∈ r.values, v < 0 := by
  rw [startsNegative_iff] at hneg
  obtain ⟨lower, upper⟩ := r
  cases lower with
  | none =>
    refine ⟨Int64.minValue, ⟨?_, ?_⟩, by decide⟩
    · intro least hleast
      cases hleast
    · intro greatest _
      exact Int64.minValue_le greatest
  | some least =>
    refine ⟨least, ⟨?_, ?_⟩, hneg least rfl⟩
    · intro other hother
      cases hother
      exact Int64.le_refl least
    · intro greatest hgreatest
      by_contra hnot
      exact hr ⟨least, rfl, greatest, hgreatest, Int64.not_le.1 hnot⟩

end Interval

namespace StaticType

variable {t : StaticType} {constant : Int64 → Bool} {range : Interval → Bool}

/-- A question is answered by yes if a value passes, as a constant and in every range that holds it.
    -/
theorem admits_of_mem {v : Int64} (hv : v ∈ t.values) (hconstant : constant v = true)
    (hrange : ∀ r : Interval, v ∈ r.values → range r = true) :
    t.intValues.admits constant range = true := by
  rw [IntValues.admits_intValues, List.any_eq_true]
  obtain ⟨a, ha, hva⟩ := (mem_values_iff t).1 hv
  refine ⟨a, ha, ?_⟩
  cases a with
  | never => exact absurd hva (Set.notMem_empty v)
  | intConst c =>
    obtain rfl : v = c := hva
    exact hconstant
  | intRange r => exact hrange r hva
  | _ => rfl

/-- Behind the answer yes there is a value of some kind, if there is one behind every constant and
    every range of the type that passes, and one at all. -/
theorem exists_mem_of_admits {P : Int64 → Prop} (hany : ∃ v, P v)
    (hconstant : ∀ c, constant c = true → P c)
    (hrange : ∀ r, .intRange r ∈ t.members → range r = true → ∃ v ∈ r.values, P v)
    (h : t.intValues.admits constant range = true) : ∃ v ∈ t.values, P v := by
  rw [IntValues.admits_intValues, List.any_eq_true] at h
  obtain ⟨a, ha, hadmits⟩ := h
  have hsome : ∃ v ∈ a.values, P v := by
    cases a with
    | never => cases hadmits
    | intConst c => exact ⟨c, rfl, hconstant c hadmits⟩
    | intRange r => exact hrange r ha hadmits
    | _ =>
      obtain ⟨v, hv⟩ := hany
      exact ⟨v, trivial, hv⟩
  obtain ⟨v, hv, hP⟩ := hsome
  exact ⟨v, (mem_values_iff t).2 ⟨a, ha, hv⟩, hP⟩

/-- The summary knows exactly which integers a value may be. -/
theorem mayBe_intValues_iff {v : Int64} : t.intValues.mayBe v = true ↔ v ∈ t.values := by
  rw [IntValues.mayBe_eq_admits]
  constructor
  · intro h
    obtain ⟨w, hw, rfl⟩ : ∃ w ∈ t.values, v = w := by
      refine exists_mem_of_admits ⟨v, rfl⟩ ?_ ?_ h
      · intro c hc
        exact of_decide_eq_true hc
      · intro r _ hr
        exact ⟨v, Interval.contains_iff.1 hr, rfl⟩
    exact hw
  · intro hv
    refine admits_of_mem hv (decide_eq_true rfl) ?_
    intro r hr
    exact Interval.contains_iff.2 hr

/-- No negative value is missed. -/
theorem mayBeNegative_of_mem {v : Int64} (hv : v ∈ t.values) (hneg : v < 0) :
    t.intValues.mayBeNegative = true := by
  rw [IntValues.mayBeNegative_eq_admits]
  refine admits_of_mem hv (decide_eq_true hneg) ?_
  intro r hr
  exact Interval.startsNegative_of_mem hr hneg

/-- Unless some range has its ends swapped, there is a negative value behind the answer. -/
theorem exists_negative (ht : ¬ t.HasInvertedRange) (hneg : t.intValues.mayBeNegative = true) :
    ∃ v ∈ t.values, v < 0 := by
  rw [IntValues.mayBeNegative_eq_admits] at hneg
  refine exists_mem_of_admits ⟨-1, by decide⟩ ?_ ?_ hneg
  · intro c hc
    exact of_decide_eq_true hc
  · intro r hmember hr
    exact Interval.exists_negative (fun hinverted => ht ⟨r, hmember, hinverted⟩) hr

end StaticType

/-! ## The rules -/

namespace TypeSet

theorem single_ne_empty (name : ClassName) : single name ≠ ∅ := by
  intro h
  have hmem : name ∈ single name := mem_single.2 rfl
  rw [h] at hmem
  cases hmem

end TypeSet

namespace ThrowModel

variable {M : ThrowModel} {t : StaticType}

theorem infer_division_eq_empty_iff :
    M.infer (.division t) = ∅ ↔ t.intValues.mayBe 0 = false := by
  rw [infer, divisionTypes]
  cases t.intValues.mayBe 0 <;> simp [TypeSet.single_ne_empty]

theorem infer_shift_eq_empty_iff :
    M.infer (.shift t) = ∅ ↔ t.intValues.mayBeNegative = false := by
  rw [infer, shiftTypes]
  cases t.intValues.mayBeNegative <;> simp [TypeSet.single_ne_empty]

theorem infer_shift_ne_empty_iff :
    M.infer (.shift t) ≠ ∅ ↔ t.intValues.mayBeNegative = true := by
  rw [Ne, infer_shift_eq_empty_iff, Bool.not_eq_false]

/-- **The rules for numbers against the meaning of types.** The summary of a type holds exactly its
    values, so a division throws nothing exactly if its divisor cannot be zero. A shift by an amount
    that may be negative is always found; and unless some range in the type of the amount has its
    ends swapped, nothing else is. -/
theorem numeric_rules_exact (M : ThrowModel) (t : StaticType) :
    (∀ v, t.intValues.mayBe v = true ↔ v ∈ t.values) ∧
    (M.infer (.division t) = ∅ ↔ 0 ∉ t.values) ∧
    ((∃ v ∈ t.values, v < 0) →
      t.intValues.mayBeNegative = true ∧ M.infer (.shift t) ≠ ∅) ∧
    (¬ t.HasInvertedRange →
      (t.intValues.mayBeNegative = true → ∃ v ∈ t.values, v < 0) ∧
      (M.infer (.shift t) ≠ ∅ → ∃ v ∈ t.values, v < 0)) := by
  refine ⟨fun v => StaticType.mayBe_intValues_iff, ?_, ?_, ?_⟩
  · rw [infer_division_eq_empty_iff, ← Bool.not_eq_true, StaticType.mayBe_intValues_iff]
  · intro hexists
    obtain ⟨v, hv, hneg⟩ := hexists
    have hnegative := StaticType.mayBeNegative_of_mem hv hneg
    exact ⟨hnegative, infer_shift_ne_empty_iff.2 hnegative⟩
  · intro hupright
    refine ⟨StaticType.exists_negative hupright, ?_⟩
    intro hshift
    exact StaticType.exists_negative hupright (infer_shift_ne_empty_iff.1 hshift)

/-- Of a range with its ends swapped not even the lower end is a value, and yet it starts below
    zero. -/
example :
    (StaticType.atom (.intRange ⟨some (-1), some (-5)⟩)).intValues.mayBe (-1) = false ∧
    (StaticType.atom (.intRange ⟨some (-1), some (-5)⟩)).intValues.mayBeNegative = true := by
  decide

/-- The least of all integers, or any from one on. -/
def outerIntegers : StaticType :=
  .union [.union [.atom .never, .atom (.intRange ⟨none, some Int64.minValue⟩)], .union [],
    .atom (.intRange ⟨some 1, none⟩)]

/-- Of two ranges that are open to one side, one has a single value. It is negative, so a shift by
    it throws; neither has zero, so a division does not. -/
theorem numeric_rules_exact_outerIntegers :
    ¬ outerIntegers.HasInvertedRange ∧
    Int64.minValue ∈ outerIntegers.values ∧ Int64.minValue + 1 ∉ outerIntegers.values ∧
    (ThrowModel.mk Registry.standard.hierarchy ⟨∅, ∅⟩ []).infer (.division outerIntegers) = ∅ ∧
    (ThrowModel.mk Registry.standard.hierarchy ⟨∅, ∅⟩ []).infer (.shift outerIntegers) ≠ ∅ ∧
    ∃ v ∈ outerIntegers.values, v < 0 := by
  obtain ⟨hmayBe, hdivision, hnegative, hconverse⟩ :=
    numeric_rules_exact (ThrowModel.mk Registry.standard.hierarchy ⟨∅, ∅⟩ []) outerIntegers
  have hupright : ¬ outerIntegers.HasInvertedRange := by
    rintro ⟨r, hr, least, hleast, greatest, hgreatest, -⟩
    have hends : r = ⟨none, some Int64.minValue⟩ ∨ r = ⟨some 1, none⟩ := by
      simpa [outerIntegers, StaticType.members, StaticType.membersAll] using hr
    rcases hends with rfl | rfl
    · cases hleast
    · cases hgreatest
  have hleast : Int64.minValue ∈ outerIntegers.values := (hmayBe _).1 (by decide)
  have hsecond : Int64.minValue + 1 ∉ outerIntegers.values := by
    rw [← hmayBe]
    decide
  have hzero : 0 ∉ outerIntegers.values := by
    rw [← hmayBe]
    decide
  obtain ⟨-, hshift⟩ := hnegative ⟨_, hleast, by decide⟩
  exact ⟨hupright, hleast, hsecond, hdivision.2 hzero, hshift, (hconverse hupright).2 hshift⟩

end ThrowModel

end ExceptionFlow
