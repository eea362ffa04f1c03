import ExceptionFlow.ClassName

set_option autoImplicit false

/-! # Sets of exception types

A set remembers the order in which its members came, because findings are reported in the order in
which throws and annotations were written. Two spellings of one class are two members. -/

namespace ExceptionFlow

/-- Class names without repetition, in the order of first insertion. -/
structure TypeSet where
  toList : List ClassName
  nodup : toList.Nodup

namespace TypeSet

@[ext] theorem ext {s t : TypeSet} (h : s.toList = t.toList) : s = t := by
  cases s; cases t; cases h; rfl

/-- The set without members. -/
def empty : TypeSet := ⟨[], List.nodup_nil⟩

instance : EmptyCollection TypeSet := ⟨empty⟩

def contains (s : TypeSet) (name : ClassName) : Bool := decide (name ∈ s.toList)

/-- Append a name unless it is a member already. -/
def insert (s : TypeSet) (name : ClassName) : TypeSet :=
  if h : name ∈ s.toList then s
  else
    { toList := s.toList ++ [name]
      nodup := by
        rw [List.nodup_append]
        refine ⟨s.nodup, by simp, ?_⟩
        intro x hx y hy hxy
        simp only [List.mem_singleton] at hy
        exact h (hy ▸ hxy ▸ hx) }

/-- Insert names one after the other. -/
def insertAll (s : TypeSet) (names : List ClassName) : TypeSet := names.foldl insert s

def ofList (names : List ClassName) : TypeSet := empty.insertAll names

/-- The set of the names that written texts denote. -/
def ofTexts (texts : List String) : TypeSet := ofList (texts.map ClassName.ofText)

def single (name : ClassName) : TypeSet := empty.insert name

/-- The members of `s`, then those of `t` that are new. -/
def union (s t : TypeSet) : TypeSet := s.insertAll t.toList

instance : Union TypeSet := ⟨union⟩

/-- The members that satisfy a test, in their order. -/
def filter (s : TypeSet) (keep : ClassName → Bool) : TypeSet :=
  ⟨s.toList.filter keep, s.nodup.filter keep⟩

/-- The members of `s` that are not in `t`. -/
def difference (s t : TypeSet) : TypeSet := s.filter fun name => !t.contains name

def size (s : TypeSet) : Nat := s.toList.length

def isEmpty (s : TypeSet) : Bool := s.toList.isEmpty

/-- Equality of the members, whatever their order. -/
def sameMembers (s t : TypeSet) : Bool := s.size == t.size && s.toList.all t.contains

instance : Membership ClassName TypeSet := ⟨fun s name => name ∈ s.toList⟩

theorem mem_def {s : TypeSet} {name : ClassName} : name ∈ s ↔ name ∈ s.toList := Iff.rfl

@[simp] theorem contains_iff {s : TypeSet} {name : ClassName} :
    s.contains name = true ↔ name ∈ s := by
  simp [contains, mem_def]

@[simp] theorem toList_empty : (∅ : TypeSet).toList = [] := rfl

theorem toList_insert (s : TypeSet) (name : ClassName) :
    (s.insert name).toList = if name ∈ s.toList then s.toList else s.toList ++ [name] := by
  unfold insert
  split <;> rfl

@[simp] theorem mem_insert {s : TypeSet} {name other : ClassName} :
    other ∈ s.insert name ↔ other ∈ s ∨ other = name := by
  simp only [mem_def, toList_insert]
  split
  · rename_i h
    exact ⟨Or.inl, fun e => e.elim id fun e => e ▸ h⟩
  · simp

@[simp] theorem mem_single {name other : ClassName} : other ∈ single name ↔ other = name := by
  rw [single, mem_insert]
  exact ⟨fun h => h.resolve_left List.not_mem_nil, Or.inr⟩

@[simp] theorem mem_insertAll {s : TypeSet} {names : List ClassName} {other : ClassName} :
    other ∈ s.insertAll names ↔ other ∈ s ∨ other ∈ names := by
  induction names generalizing s with
  | nil => simp [insertAll]
  | cons name rest ih =>
    have ih := @ih (s.insert name)
    simp only [insertAll, List.foldl_cons] at ih ⊢
    rw [ih, mem_insert, List.mem_cons, or_assoc]

theorem insertAll_append (s : TypeSet) (names more : List ClassName) :
    (s.insertAll names).insertAll more = s.insertAll (names ++ more) :=
  List.foldl_append.symm

@[simp] theorem mem_ofList {names : List ClassName} {other : ClassName} :
    other ∈ ofList names ↔ other ∈ names := by
  rw [ofList, mem_insertAll]
  exact ⟨fun h => h.resolve_left List.not_mem_nil, Or.inr⟩

@[simp] theorem mem_union {s t : TypeSet} {other : ClassName} :
    other ∈ s ∪ t ↔ other ∈ s ∨ other ∈ t :=
  mem_insertAll

@[simp] theorem mem_filter {s : TypeSet} {keep : ClassName → Bool} {other : ClassName} :
    other ∈ s.filter keep ↔ other ∈ s ∧ keep other = true :=
  List.mem_filter

@[simp] theorem mem_difference {s t : TypeSet} {other : ClassName} :
    other ∈ s.difference t ↔ other ∈ s ∧ other ∉ t := by
  rw [difference, mem_filter, Bool.not_eq_true', ← Bool.not_eq_true, contains_iff]

@[simp] theorem toList_filter (s : TypeSet) (keep : ClassName → Bool) :
    (s.filter keep).toList = s.toList.filter keep := rfl

/-! ## Order -/

theorem eraseDups_eq_self {names : List ClassName} (h : names.Nodup) : names.eraseDups = names := by
  induction names with
  | nil => rfl
  | cons name rest ih =>
    obtain ⟨hnot, hrest⟩ := List.nodup_cons.1 h
    have hkeep : rest.filter (fun other => !other == name) = rest := by
      refine List.filter_eq_self.2 ?_
      intro other hother
      have hne : other ≠ name := fun he => hnot (he ▸ hother)
      simpa using hne
    rw [List.eraseDups_cons, hkeep, ih hrest]

/-- Inserted names come behind the members, each where it first occurs. -/
theorem toList_insertAll (s : TypeSet) (names : List ClassName) :
    (s.insertAll names).toList = (s.toList ++ names).eraseDups := by
  induction names generalizing s with
  | nil => rw [List.append_nil, eraseDups_eq_self s.nodup, insertAll, List.foldl_nil]
  | cons name rest ih =>
    have hstep : (s.insertAll (name :: rest)).toList = ((s.insert name).toList ++ rest).eraseDups :=
      ih (s.insert name)
    rw [hstep, toList_insert]
    split
    · rename_i hmem
      rw [List.eraseDups_append, List.eraseDups_append, List.cons_removeAll]
      simp [hmem]
    · rw [List.append_assoc, List.singleton_append]

theorem toList_ofList (names : List ClassName) : (ofList names).toList = names.eraseDups :=
  toList_insertAll empty names

end TypeSet

end ExceptionFlow
