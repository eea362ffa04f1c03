import ExceptionFlow.Proofs.IntegerValues
import ExceptionFlow.Proofs.Subtyping

set_option autoImplicit false

/-! # Errors that depend on the arguments

Integer division fails on some pairs of operands, and the functions for JSON throw if a flag asks
for it. What is inferred for a call of them is compared here with the values that the arguments may
have.

One lemma for each family says exactly which types are found for a call (`mem_infer_intdiv`,
`mem_infer_json`): the declared ones, the errors of the refinement in the spelling of the registry,
and what the methods of the first argument throw. That an error is never missed, and that it is not
added without a reason, are then questions about integers: the only quotient of two integers that is
too large is the least integer by minus one (`quotientOverflows_iff`), and a flag is one bit
(`asksToThrow_iff`). Flags that are given by a range count as if they asked, whatever the range. -/

namespace ExceptionFlow

/-! ## Integers -/

/-- The quotient, truncated towards zero, is outside of the 64-bit integers. -/
def QuotientOverflows (a b : Int64) : Prop :=
  b ≠ 0 ∧ ¬ (Int64.minValue.toInt ≤ a.toInt.tdiv b.toInt ∧
    a.toInt.tdiv b.toInt ≤ Int64.maxValue.toInt)

theorem quotientOverflows_iff {a b : Int64} :
    QuotientOverflows a b ↔ a = Int64.minValue ∧ b = -1 := by
  have hlower := Int64.le_toInt a
  have hupper := Int64.toInt_lt a
  have hminus : (-1 : Int64).toInt = -1 := by decide
  rw [QuotientOverflows, Int64.toInt_minValue, Int64.toInt_maxValue, Ne, ← Int64.toInt_inj,
    ← Int64.toInt_inj, ← Int64.toInt_inj, Int64.toInt_minValue, hminus, Int64.toInt_zero]
  generalize a.toInt = x at *
  generalize b.toInt = y at *
  constructor
  · rintro ⟨hzero, hout⟩
    by_cases hone : y = 1
    · rw [hone, Int.tdiv_one] at hout
      omega
    · by_cases hneg : y = -1
      · rw [hneg, Int.tdiv_neg, Int.tdiv_one] at hout
        omega
      · -- by two or more in size, the quotient is at most half as large
        have hhalf : (x.tdiv y).natAbs ≤ x.natAbs / 2 := by
          rw [Int.natAbs_tdiv]
          exact Nat.div_le_div_left (by omega) (by decide)
        omega
  · rintro ⟨rfl, rfl⟩
    decide

/-- The flag that makes the functions for JSON throw is set: bit 22, in two's complement. -/
def AsksToThrow (flags : Int64) : Prop := flags.toBitVec.getLsbD 22 = true

theorem asksToThrow_iff {flags : Int64} :
    AsksToThrow flags ↔ flags &&& Refinement.throwOnError ≠ 0 := by
  have hflag : Refinement.throwOnError.toBitVec = BitVec.twoPow 64 22 := by decide
  rw [AsksToThrow, Ne, ← Int64.toBitVec_inj, Int64.toBitVec_and, hflag, BitVec.and_twoPow]
  cases flags.toBitVec.getLsbD 22 with
  | true => decide
  | false => decide

/-! ## Flags -/

namespace StaticType

variable {t : StaticType}

/-- The type is made of integer constants alone. -/
def OnlyConstants (t : StaticType) : Prop := ∀ a ∈ t.members, ∃ v, a = .intConst v

theorem mayThrowOnError_eq_admits (values : IntValues) :
    Refinement.mayThrowOnError values
      = values.admits (fun v => decide (v &&& Refinement.throwOnError ≠ 0)) fun _ => true := by
  have hranges : (!values.ranges.isEmpty) = values.ranges.any fun _ => true := by
    cases values.ranges <;> simp
  rw [Refinement.mayThrowOnError, IntValues.admits, hranges, Bool.or_assoc, Bool.or_assoc,
    Bool.or_comm (List.any _ _)]

/-- Flags that ask to throw are not missed. -/
theorem mayThrowOnError_of_mem {v : Int64} (hv : v ∈ t.values) (hasks : AsksToThrow v) :
    Refinement.mayThrowOnError t.intValues = true := by
  rw [mayThrowOnError_eq_admits]
  exact admits_of_mem hv (decide_eq_true (asksToThrow_iff.1 hasks)) fun _ _ => rfl

/-- Constant flags may throw only if one of them asks to. -/
theorem exists_asksToThrow (ht : t.OnlyConstants)
    (h : Refinement.mayThrowOnError t.intValues = true) : ∃ v ∈ t.values, AsksToThrow v := by
  rw [mayThrowOnError_eq_admits] at h
  refine exists_mem_of_admits ⟨-1, asksToThrow_iff.2 (by decide)⟩ ?_ ?_ h
  · intro c hc
    exact asksToThrow_iff.2 (of_decide_eq_true hc)
  · intro r hmember
    obtain ⟨v, hv⟩ := ht _ hmember
    cases hv

end StaticType

/-! ## Normalized types -/

/-- In a registry, the declared spelling is declared under itself. -/
theorem Registry.normalizeName_normalizeName (r : Registry) (name : ClassName) :
    r.hierarchy.normalizeName (r.hierarchy.normalizeName name)
      = r.hierarchy.normalizeName name := by
  have hsame : r.hierarchy.resolve? (r.hierarchy.normalizeName name) = r.hierarchy.resolve? name :=
    congrArg (Option.map ClassDecl.name) (find?_congr (key_normalizeName name))
  cases h : r.hierarchy.resolve? name with
  | none => rw [Hierarchy.normalizeName, hsame, h, Option.getD_none]
  | some resolved =>
    rw [Hierarchy.normalizeName, hsame, h, Option.getD_some, Hierarchy.normalizeName, h,
      Option.getD_some]

namespace ThrowModel

/-- What is inferred in a registry, with configured throw types and the standard refinements. -/
def standard (r : Registry) (d : Defaults) : ThrowModel := ⟨r.hierarchy, d, Refinement.standard⟩

theorem hierarchy_standard (r : Registry) (d : Defaults) :
    (standard r d).hierarchy = r.hierarchy := rfl

theorem refinements_standard (r : Registry) (d : Defaults) :
    (standard r d).refinements = [Refinement.integerDivision, Refinement.json] := rfl

section Normalize

variable {M : ThrowModel} {types : TypeSet} {x : ClassName}

theorem mem_normalize :
    x ∈ M.normalize types ↔ ∃ name ∈ types, M.hierarchy.normalizeName name = x := by
  rw [normalize, TypeSet.mem_ofList, List.mem_map]
  rfl

theorem mem_normalize_insertIf {condition : Bool} {name : ClassName} :
    x ∈ M.normalize (Refinement.insertIf types condition name)
      ↔ x ∈ M.normalize types ∨ condition = true ∧ x = M.hierarchy.normalizeName name := by
  cases condition with
  | false => simp [Refinement.insertIf]
  | true =>
    simp only [Refinement.insertIf, if_true, mem_normalize, TypeSet.mem_insert, or_and_right,
      exists_or, exists_eq_left, true_and]
    rw [eq_comm (a := x)]

theorem mem_normalize_normalize {r : Registry} {d : Defaults} :
    x ∈ (standard r d).normalize ((standard r d).normalize types)
      ↔ x ∈ (standard r d).normalize types := by
  constructor
  · intro h
    obtain ⟨name, hname, rfl⟩ := mem_normalize.1 h
    obtain ⟨written, hwritten, rfl⟩ := mem_normalize.1 hname
    exact mem_normalize.2 ⟨written, hwritten, (r.normalizeName_normalizeName written).symm⟩
  · intro h
    obtain ⟨written, hwritten, rfl⟩ := mem_normalize.1 h
    exact mem_normalize.2 ⟨_, h, r.normalizeName_normalizeName written⟩

end Normalize

/-- The types that are declared for the function that a call names. -/
def declaredFor (M : ThrowModel) (name : String) : TypeSet :=
  M.normalize (M.declaredTypes (Symbol.functionKey name))

/-! ## Calls -/

variable {r : Registry} {d : Defaults} {name : String} {x : ClassName}

theorem mem_infer_call {args : List StaticType} :
    x ∈ (standard r d).infer (.call name args)
      ↔ x ∈ (standard r d).refineBy ⟨Symbol.functionKey name, args⟩
          ((standard r d).refineBy ⟨Symbol.functionKey name, args⟩
            ((standard r d).declaredFor name) Refinement.integerDivision) Refinement.json ∨
        x ∈ (standard r d).protocolTypes (Symbol.functionKey name) args := by
  simp only [infer, functionTypes, refinements_standard, List.foldl_cons, List.foldl_nil,
    TypeSet.mem_union, declaredFor]

/-- What is found for an integer division. -/
theorem mem_infer_intdiv {dividend divisor : StaticType} {rest : List StaticType}
    (hname : Symbol.functionKey name = "intdiv") :
    x ∈ (standard r d).infer (.call name (dividend :: divisor :: rest))
      ↔ x ∈ (standard r d).declaredFor name ∨
        0 ∈ divisor.values ∧ x = r.hierarchy.normalizeName Refinement.divisionByZeroError ∨
        (-1 ∈ divisor.values ∧ Int64.minValue ∈ dividend.values) ∧
          x = r.hierarchy.normalizeName Refinement.arithmeticError := by
  rw [mem_infer_call, hname]
  have hprotocol : x ∉ (standard r d).protocolTypes "intdiv" (dividend :: divisor :: rest) :=
    List.not_mem_nil
  have hjson (known : TypeSet) : (standard r d).refineBy ⟨"intdiv", dividend :: divisor :: rest⟩
      known Refinement.json = known := rfl
  have hdivision (known : TypeSet) :
      (standard r d).refineBy ⟨"intdiv", dividend :: divisor :: rest⟩ known
          Refinement.integerDivision
        = (standard r d).normalize (Refinement.insertIf
            (Refinement.insertIf known (divisor.intValues.mayBe 0) Refinement.divisionByZeroError)
            (divisor.intValues.mayBe (-1) && dividend.intValues.mayBe Int64.minValue)
            Refinement.arithmeticError) := rfl
  rw [hjson, hdivision, mem_normalize_insertIf, mem_normalize_insertIf, declaredFor,
    mem_normalize_normalize, Bool.and_eq_true, StaticType.mayBe_intValues_iff,
    StaticType.mayBe_intValues_iff, StaticType.mayBe_intValues_iff, or_assoc, or_assoc]
  simp only [hprotocol, or_false, hierarchy_standard]

/-- Where the flags stand in a call of a function for JSON. -/
inductive FlagsOf : String → List StaticType → StaticType → Prop where
  | encode (value flags : StaticType) (rest : List StaticType) :
      FlagsOf "json_encode" (value :: flags :: rest) flags
  | decode (text associative depth flags : StaticType) (rest : List StaticType) :
      FlagsOf "json_decode" (text :: associative :: depth :: flags :: rest) flags

section Json

variable {function : String} {args : List StaticType} {flags : StaticType}

theorem refine_json (hflags : FlagsOf function args flags) (known : TypeSet) :
    Refinement.json.refine ⟨function, args⟩ known
      = .ok (Refinement.insertIf known (Refinement.mayThrowOnError flags.intValues)
          Refinement.jsonException) := by
  cases hflags with
  | encode value flags rest => rfl
  | decode text associative depth flags rest => rfl

theorem refineBy_json {M : ThrowModel} (hflags : FlagsOf function args flags) (known : TypeSet) :
    M.refineBy ⟨function, args⟩ (M.refineBy ⟨function, args⟩ known Refinement.integerDivision)
        Refinement.json
      = M.normalize (Refinement.insertIf known (Refinement.mayThrowOnError flags.intValues)
          Refinement.jsonException) := by
  have hdivision : Refinement.integerDivision.supports function = false := by
    cases hflags <;> rfl
  have hjson : Refinement.json.supports function = true := by
    cases hflags <;> rfl
  simp only [refineBy, hdivision, hjson, if_true, Bool.false_eq_true, if_false, refine_json hflags]

/-- What is found for a call of a function for JSON. -/
theorem mem_infer_json (hflags : FlagsOf (Symbol.functionKey name) args flags) :
    x ∈ (standard r d).infer (.call name args)
      ↔ x ∈ (standard r d).declaredFor name ∨
        Refinement.mayThrowOnError flags.intValues = true ∧
          x = r.hierarchy.normalizeName Refinement.jsonException ∨
        x ∈ (standard r d).protocolTypes (Symbol.functionKey name) args := by
  rw [mem_infer_call, refineBy_json hflags, mem_normalize_insertIf, declaredFor,
    mem_normalize_normalize, or_assoc, hierarchy_standard]

end Json

/-! ## Errors and values -/

theorem divisionByZeroError_ne_arithmeticError (r : Registry) :
    r.hierarchy.normalizeName Refinement.divisionByZeroError
      ≠ r.hierarchy.normalizeName Refinement.arithmeticError := by
  intro h
  have hkeys := congrArg ClassName.key h
  rw [Registry.key_normalizeName, Registry.key_normalizeName] at hkeys
  revert hkeys
  decide

section Operands

variable {dividend divisor : StaticType} {rest : List StaticType}

theorem divisionByZeroError_mem_infer_iff (hname : Symbol.functionKey name = "intdiv") :
    r.hierarchy.normalizeName Refinement.divisionByZeroError
        ∈ (standard r d).infer (.call name (dividend :: divisor :: rest))
      ↔ r.hierarchy.normalizeName Refinement.divisionByZeroError
          ∈ (standard r d).declaredFor name ∨ 0 ∈ divisor.values := by
  rw [mem_infer_intdiv hname]
  simp only [divisionByZeroError_ne_arithmeticError r, and_true, and_false, or_false]

theorem arithmeticError_mem_infer_iff (hname : Symbol.functionKey name = "intdiv") :
    r.hierarchy.normalizeName Refinement.arithmeticError
        ∈ (standard r d).infer (.call name (dividend :: divisor :: rest))
      ↔ r.hierarchy.normalizeName Refinement.arithmeticError
          ∈ (standard r d).declaredFor name ∨
        ∃ a ∈ dividend.values, ∃ b ∈ divisor.values, QuotientOverflows a b := by
  have hpair : (∃ a ∈ dividend.values, ∃ b ∈ divisor.values, QuotientOverflows a b)
      ↔ -1 ∈ divisor.values ∧ Int64.minValue ∈ dividend.values := by
    simp only [quotientOverflows_iff]
    grind
  rw [mem_infer_intdiv hname, hpair]
  simp only [(divisionByZeroError_ne_arithmeticError r).symm, and_true, and_false, false_or]

end Operands

/-- **Errors that depend on the arguments are not missed.** If two values of the operands of an
    integer division fail, by a zero divisor or by a quotient that is too large, the error is found,
    in the spelling of the registry. If the dividend has a value at all, an error that is not
    declared is found only then. If a value of the flags of a function for JSON asks to throw, its
    exception is found. If the flags are constants of which none asks, the refinement changes
    nothing, whatever types are known, and the exception is found only as a declared one or one of
    the methods of the first argument. -/
theorem argument_errors_not_missed (r : Registry) (d : Defaults) :
    (∀ (name : String) (dividend divisor : StaticType) (rest : List StaticType),
      Symbol.functionKey name = "intdiv" →
      (∀ a ∈ dividend.values, ∀ b ∈ divisor.values,
        (b = 0 → r.hierarchy.normalizeName Refinement.divisionByZeroError
          ∈ (standard r d).infer (.call name (dividend :: divisor :: rest))) ∧
        (QuotientOverflows a b → r.hierarchy.normalizeName Refinement.arithmeticError
          ∈ (standard r d).infer (.call name (dividend :: divisor :: rest)))) ∧
      (dividend.values.Nonempty →
        (r.hierarchy.normalizeName Refinement.divisionByZeroError
            ∉ (standard r d).declaredFor name →
          r.hierarchy.normalizeName Refinement.divisionByZeroError
            ∈ (standard r d).infer (.call name (dividend :: divisor :: rest)) →
          ∃ a ∈ dividend.values, ∃ b ∈ divisor.values, b = 0) ∧
        (r.hierarchy.normalizeName Refinement.arithmeticError ∉ (standard r d).declaredFor name →
          r.hierarchy.normalizeName Refinement.arithmeticError
            ∈ (standard r d).infer (.call name (dividend :: divisor :: rest)) →
          ∃ a ∈ dividend.values, ∃ b ∈ divisor.values, QuotientOverflows a b))) ∧
    (∀ (name : String) (args : List StaticType) (flags : StaticType),
      FlagsOf (Symbol.functionKey name) args flags →
      ((∃ v ∈ flags.values, AsksToThrow v) →
        r.hierarchy.normalizeName Refinement.jsonException
          ∈ (standard r d).infer (.call name args)) ∧
      (flags.OnlyConstants → (¬ ∃ v ∈ flags.values, AsksToThrow v) →
        (∀ known, Refinement.json.refine ⟨Symbol.functionKey name, args⟩ known = .ok known) ∧
        (r.hierarchy.normalizeName Refinement.jsonException
            ∈ (standard r d).infer (.call name args) →
          r.hierarchy.normalizeName Refinement.jsonException ∈ (standard r d).declaredFor name ∨
          r.hierarchy.normalizeName Refinement.jsonException
            ∈ (standard r d).protocolTypes (Symbol.functionKey name) args))) := by
  refine ⟨?_, ?_⟩
  · intro name dividend divisor rest hname
    rw [divisionByZeroError_mem_infer_iff hname, arithmeticError_mem_infer_iff hname]
    refine ⟨?_, ?_⟩
    · intro a ha b hb
      refine ⟨?_, ?_⟩
      · rintro rfl
        exact .inr hb
      · intro hoverflow
        exact .inr ⟨a, ha, b, hb, hoverflow⟩
    · rintro ⟨a, ha⟩
      refine ⟨?_, ?_⟩
      · intro hundeclared hfound
        exact ⟨a, ha, 0, hfound.resolve_left hundeclared, rfl⟩
      · intro hundeclared hfound
        exact hfound.resolve_left hundeclared
  · intro name args flags hflags
    rw [mem_infer_json hflags]
    refine ⟨?_, ?_⟩
    · rintro ⟨v, hv, hasks⟩
      exact .inr (.inl ⟨StaticType.mayThrowOnError_of_mem hv hasks, rfl⟩)
    · intro hconstants hnone
      have hsilent : ¬ Refinement.mayThrowOnError flags.intValues = true := fun hmay =>
        hnone (StaticType.exists_asksToThrow hconstants hmay)
      refine ⟨?_, ?_⟩
      · intro known
        rw [refine_json hflags, Refinement.insertIf, if_neg hsilent]
      · rintro (hdeclared | ⟨hmay, -⟩ | hprotocol)
        · exact .inl hdeclared
        · exact absurd hmay hsilent
        · exact .inr hprotocol

/-- A registry with one of the errors, in a spelling of its own. -/
def shoutedErrors : Registry := Registry.empty.addClass (.bare ⟨"DIVISIONBYZEROERROR"⟩ .concrete)

/-- No integer above zero. -/
def atMostZero : StaticType := .union [.atom .never, .atom (.intRange ⟨none, some 0⟩)]

/-- Minus one or zero. -/
def minusOneOrZero : StaticType := .atom (.intRange ⟨some (-1), some 0⟩)

/-- Both errors of an integer division at once, from two ranges; every flag, as minus one has them;
    and flags of which only the one that asks to throw is missing. -/
theorem argument_errors_not_missed_ranges :
    QuotientOverflows Int64.minValue (-1) ∧
    ⟨"DIVISIONBYZEROERROR"⟩ ∈ (standard shoutedErrors ⟨∅, ∅⟩).infer
      (.call "\\IntDiv" [atMostZero, minusOneOrZero]) ∧
    ⟨"ArithmeticError"⟩ ∈ (standard shoutedErrors ⟨∅, ∅⟩).infer
      (.call "\\IntDiv" [atMostZero, minusOneOrZero]) ∧
    (∃ a ∈ atMostZero.values, ∃ b ∈ minusOneOrZero.values, QuotientOverflows a b) ∧
    ⟨"JsonException"⟩ ∈ (standard shoutedErrors ⟨∅, ∅⟩).infer
      (.call "JSON_decode" [.atom .string, .atom .bool, .atom .int, .ints [0, -1]]) ∧
    ⟨"JsonException"⟩ ∉ (standard shoutedErrors ⟨∅, ∅⟩).infer
      (.call "json_encode" [.atom .mixed, .ints [0, -4194305]]) := by
  obtain ⟨hintdiv, hjson⟩ := argument_errors_not_missed shoutedErrors ⟨∅, ∅⟩
  have hshouted : shoutedErrors.hierarchy.normalizeName Refinement.divisionByZeroError
      = ⟨"DIVISIONBYZEROERROR"⟩ := by decide +kernel
  have harithmetic : shoutedErrors.hierarchy.normalizeName Refinement.arithmeticError
      = ⟨"ArithmeticError"⟩ := by decide +kernel
  have hexception : shoutedErrors.hierarchy.normalizeName Refinement.jsonException
      = ⟨"JsonException"⟩ := by decide +kernel
  rw [hshouted, harithmetic] at hintdiv
  rw [hexception] at hjson
  obtain ⟨hfound, hreason⟩ := hintdiv "\\IntDiv" atMostZero minusOneOrZero [] (by decide +kernel)
  have hleast : Int64.minValue ∈ atMostZero.values := StaticType.mayBe_intValues_iff.1 (by decide)
  have hminus : -1 ∈ minusOneOrZero.values := StaticType.mayBe_intValues_iff.1 (by decide)
  have hzero : 0 ∈ minusOneOrZero.values := StaticType.mayBe_intValues_iff.1 (by decide)
  have hoverflow : QuotientOverflows Int64.minValue (-1) := quotientOverflows_iff.2 ⟨rfl, rfl⟩
  have hquotient := (hfound _ hleast _ hminus).2 hoverflow
  have hundeclared :
      ⟨"ArithmeticError"⟩ ∉ (standard shoutedErrors ⟨∅, ∅⟩).declaredFor "\\IntDiv" := by
    rw [← TypeSet.contains_iff]
    decide +kernel
  obtain ⟨hall, -⟩ := hjson "JSON_decode" _ _
    (.decode (.atom .string) (.atom .bool) (.atom .int) (.ints [0, -1]) [])
  have hasks : AsksToThrow (-1) := asksToThrow_iff.2 (by decide)
  obtain ⟨-, hsilent⟩ := hjson "json_encode" _ _ (.encode (.atom .mixed) (.ints [0, -4194305]) [])
  have hconstants : (StaticType.ints [0, -4194305]).OnlyConstants := by
    simp [StaticType.OnlyConstants, StaticType.ints, StaticType.members, StaticType.membersAll]
  have hnone : ¬ ∃ v ∈ (StaticType.ints [0, -4194305]).values, AsksToThrow v := by
    rintro ⟨v, hv, hv'⟩
    exact absurd (StaticType.mayThrowOnError_of_mem hv hv') (by decide)
  refine ⟨hoverflow, (hfound _ hleast _ hzero).1 rfl, hquotient,
    (hreason ⟨_, hleast⟩).2 hundeclared hquotient, ?_, ?_⟩
  · exact hall ⟨-1, StaticType.mayBe_intValues_iff.1 (by decide), hasks⟩
  · intro hthrown
    rcases (hsilent hconstants hnone).2 hthrown with hdeclared | hprotocol
    · rw [← TypeSet.contains_iff] at hdeclared
      revert hdeclared
      decide +kernel
    · cases hprotocol

end ThrowModel

end ExceptionFlow
