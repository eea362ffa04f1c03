import Mathlib.Data.List.Perm.Subperm
import Mathlib.Data.Nat.Find
import Mathlib.Order.Bounds.Basic
import ExceptionFlow.Proofs.UnionOperands

set_option autoImplicit false

/-! # The order of insertion

A set of types is a list that its operations keep in order. To say which order this is, whatever
operations there were, each of them is taken apart into events: one name is inserted, or all names
with some property are removed. A member came in at the first insertion after which it was never
removed (`EntersAt`), and members stand in the order in which they came in (`InsertionOrdered`). One
event keeps this (`InsertionOrdered.apply`), and so does every sequence of operations.

Two sets may be compared as lists, or by their members alone (`sameMembers`). Union is associative
and idempotent and is distributed over by difference as an operation on lists; the second kind of
equality is a congruence. -/

namespace ExceptionFlow.TypeSet

/-! ## Events -/

/-- What happens to a set: a name is inserted, or the names that pass a test are removed. -/
inductive Event where
  | inserted (name : ClassName)
  | removed (test : ClassName → Bool)

namespace Event

def apply (s : TypeSet) : Event → TypeSet
  | inserted name => s.insert name
  | removed test => s.filter fun name => !test name

def removes (name : ClassName) : Event → Bool
  | inserted _ => false
  | removed test => test name

end Event

variable {history : List Event} {e : Event} {name a b : ClassName} {i : Nat}

/-- The name was inserted at a position of the history and never removed since. -/
def StaysFrom (history : List Event) (name : ClassName) (i : Nat) : Prop :=
  history[i]? = some (.inserted name) ∧ ∀ e ∈ history.drop (i + 1), e.removes name = false

/-- The first insertion since which the name was never removed. -/
def EntersAt (history : List Event) (name : ClassName) (i : Nat) : Prop :=
  IsLeast {i | StaysFrom history name i} i

/-- The one name came in before the other. -/
def EntersBefore (history : List Event) (a b : ClassName) : Prop :=
  ∃ i j, EntersAt history a i ∧ EntersAt history b j ∧ i < j

theorem StaysFrom.lt_length (h : StaysFrom history name i) : i < history.length :=
  (List.getElem?_eq_some_iff.1 h.1).1

theorem exists_entersAt (h : ∃ i, StaysFrom history name i) : ∃ i, EntersAt history name i := by
  classical
  exact ⟨Nat.find h, Nat.find_spec h, fun _ hj => Nat.find_min' h hj⟩

/-- One more event may remove the name, or insert it. -/
theorem staysFrom_concat :
    StaysFrom (history ++ [e]) name i
      ↔ StaysFrom history name i ∧ e.removes name = false ∨
        i = history.length ∧ e = .inserted name := by
  rcases Nat.lt_trichotomy i history.length with hlt | rfl | hgt
  · have hne : i ≠ history.length := Nat.ne_of_lt hlt
    simp [StaysFrom, List.getElem?_append_left hlt, List.drop_append_of_le_length hlt,
      or_imp, forall_and, and_assoc, hne]
  · simp [StaysFrom]
  · have hnot : ¬ StaysFrom history name i := fun h => Nat.lt_asymm hgt h.lt_length
    have hnew : ¬ StaysFrom (history ++ [e]) name i := by
      intro h
      have hlt := h.lt_length
      rw [List.length_append, List.length_singleton] at hlt
      omega
    simp [hnot, hnew, Nat.ne_of_gt hgt]

/-- A name that is not removed keeps its position of entry. -/
theorem EntersAt.concat (h : EntersAt history name i) (hkept : e.removes name = false) :
    EntersAt (history ++ [e]) name i := by
  refine ⟨staysFrom_concat.2 (.inl ⟨h.1, hkept⟩), ?_⟩
  intro k hk
  rcases staysFrom_concat.1 hk with ⟨hk, -⟩ | ⟨rfl, -⟩
  · exact h.2 hk
  · exact Nat.le_of_lt h.1.lt_length

/-- A name that is not in comes in where it is inserted. -/
theorem entersAt_length (h : ¬ ∃ i, StaysFrom history name i) :
    EntersAt (history ++ [.inserted name]) name history.length := by
  refine ⟨staysFrom_concat.2 (.inr ⟨rfl, rfl⟩), ?_⟩
  intro k hk
  rcases staysFrom_concat.1 hk with ⟨hk, -⟩ | ⟨rfl, -⟩
  · exact absurd ⟨k, hk⟩ h
  · exact Nat.le_refl _

/-- The members are the names that were inserted and never removed since, each once and in the order
    of their first such insertion. -/
structure InsertionOrdered (history : List Event) (s : TypeSet) : Prop where
  nodup : s.toList.Nodup
  mem_iff : ∀ name, name ∈ s ↔ ∃ i, StaysFrom history name i
  pairwise : s.toList.Pairwise (EntersBefore history)

namespace InsertionOrdered

variable {s : TypeSet}

protected theorem empty : InsertionOrdered [] ∅ where
  nodup := List.nodup_nil
  mem_iff _ := by simp [mem_def, StaysFrom]
  pairwise := .nil

/-- Members that an event does not remove stay in their order. -/
theorem pairwise_concat (h : InsertionOrdered history s) {kept : List ClassName}
    (hsub : kept.Sublist s.toList) (hkept : ∀ name ∈ kept, e.removes name = false) :
    kept.Pairwise (EntersBefore (history ++ [e])) := by
  refine (h.pairwise.sublist hsub).imp_of_mem ?_
  rintro a b ha hb ⟨i, j, hi, hj, hlt⟩
  exact ⟨i, j, hi.concat (hkept a ha), hj.concat (hkept b hb), hlt⟩

theorem insert (h : InsertionOrdered history s) (name : ClassName) :
    InsertionOrdered (history ++ [.inserted name]) (s.insert name) where
  nodup := (s.insert name).nodup
  mem_iff other := by
    simp only [mem_insert, h.mem_iff other, staysFrom_concat, Event.removes, and_true, exists_or,
      exists_and_right, exists_eq, true_and, Event.inserted.injEq, eq_comm]
  pairwise := by
    have hmembers := h.pairwise_concat (e := .inserted name) (List.Sublist.refl s.toList)
      (fun _ _ => rfl)
    rw [toList_insert]
    split
    · exact hmembers
    · rename_i hnew
      refine List.pairwise_append.2 ⟨hmembers, List.pairwise_singleton _ _, ?_⟩
      intro a ha b hb
      obtain rfl := List.mem_singleton.1 hb
      -- the others came in before the event, the new name comes in with it
      obtain ⟨i, hi⟩ := exists_entersAt ((h.mem_iff a).1 ha)
      exact ⟨i, history.length, hi.concat rfl, entersAt_length (mt (h.mem_iff b).2 hnew),
        hi.1.lt_length⟩

theorem remove (h : InsertionOrdered history s) (test : ClassName → Bool) :
    InsertionOrdered (history ++ [.removed test]) (s.filter fun name => !test name) where
  nodup := (s.filter _).nodup
  mem_iff other := by
    simp [h.mem_iff other, staysFrom_concat, Event.removes]
  pairwise := by
    refine h.pairwise_concat List.filter_sublist ?_
    intro name hname
    simpa [Event.removes] using (List.mem_filter.1 hname).2

/-- One event keeps the order. -/
theorem apply (h : InsertionOrdered history s) (e : Event) :
    InsertionOrdered (history ++ [e]) (e.apply s) := by
  cases e with
  | inserted name => exact h.insert name
  | removed test => exact h.remove test

/-- So do events one after the other. -/
theorem foldl_apply (h : InsertionOrdered history s) (events : List Event) :
    InsertionOrdered (history ++ events) (events.foldl Event.apply s) := by
  induction events generalizing history s with
  | nil => rwa [List.append_nil]
  | cons e rest ih => simpa using ih (h.apply e)

end InsertionOrdered

/-! ## Operations -/

/-- An operation on a set. The union is taken in place or as a new set, which is the same here. -/
inductive Operation where
  | insert (name : ClassName)
  | extend (names : List ClassName)
  | union (other : TypeSet)
  | difference (other : TypeSet)
  | retain (keep : ClassName → Bool)

namespace Operation

def apply (s : TypeSet) : Operation → TypeSet
  | insert name => s.insert name
  | extend names => s.insertAll names
  | union other => s ∪ other
  | difference other => s.difference other
  | retain keep => s.filter keep

/-- The events that an operation consists of. -/
def events : Operation → List Event
  | insert name => [.inserted name]
  | extend names => names.map .inserted
  | union other => other.toList.map .inserted
  | difference other => [.removed other.contains]
  | retain keep => [.removed fun name => !keep name]

end Operation

theorem insertAll_eq_foldl_apply (s : TypeSet) (names : List ClassName) :
    s.insertAll names = (names.map Event.inserted).foldl Event.apply s := by
  rw [List.foldl_map]
  rfl

theorem Operation.apply_eq_foldl (s : TypeSet) (op : Operation) :
    op.apply s = op.events.foldl Event.apply s := by
  cases op with
  | insert name => rfl
  | extend names => exact insertAll_eq_foldl_apply s names
  | union other => exact insertAll_eq_foldl_apply s other.toList
  | difference other => rfl
  | retain keep => simp [apply, events, Event.apply]

/-- A sequence of operations keeps the order. -/
theorem InsertionOrdered.foldl_operations {s : TypeSet} (h : InsertionOrdered history s)
    (ops : List Operation) :
    InsertionOrdered (history ++ ops.flatMap Operation.events) (ops.foldl Operation.apply s) := by
  induction ops generalizing history s with
  | nil => simpa using h
  | cons op rest ih =>
    have hop := h.foldl_apply op.events
    rw [← op.apply_eq_foldl] at hop
    simpa using ih hop

theorem insertionOrdered_ofList (names : List ClassName) :
    InsertionOrdered (names.map .inserted) (ofList names) := by
  have h := InsertionOrdered.empty.foldl_apply (names.map .inserted)
  rwa [← insertAll_eq_foldl_apply] at h

/-! ## Laws of lists -/

theorem union_assoc (a b c : TypeSet) : a ∪ b ∪ c = a ∪ (b ∪ c) :=
  (insertAll_toList_insertAll a b c.toList).symm

theorem union_self (a : TypeSet) : a ∪ a = a := insertAll_of_subset fun _ h => h

theorem filter_insert (s : TypeSet) (name : ClassName) (keep : ClassName → Bool) :
    (s.insert name).filter keep
      = if keep name then (s.filter keep).insert name else s.filter keep := by
  ext1
  by_cases hmem : name ∈ s.toList <;> by_cases hkeep : keep name = true <;>
    simp [toList_insert, hmem, hkeep]

/-- What is not kept need not be inserted. -/
theorem filter_insertAll (s : TypeSet) (names : List ClassName) (keep : ClassName → Bool) :
    (s.insertAll names).filter keep = (s.filter keep).insertAll (names.filter keep) := by
  induction names generalizing s with
  | nil => rfl
  | cons name rest ih =>
    rw [insertAll_cons, ih, filter_insert, List.filter_cons]
    split <;> rfl

theorem union_difference (a b c : TypeSet) :
    (a ∪ b).difference c = a.difference c ∪ b.difference c :=
  filter_insertAll a b.toList _

/-! ## Equality of members -/

theorem sameMembers_iff {s t : TypeSet} :
    s.sameMembers t = true ↔ ∀ name, name ∈ s ↔ name ∈ t := by
  unfold sameMembers size
  rw [Bool.and_eq_true, beq_iff_eq, List.all_eq_true]
  constructor
  · rintro ⟨hsize, hsub⟩ name
    have hsubset : s.toList ⊆ t.toList := fun name hname => contains_iff.1 (hsub name hname)
    have hperm : s.toList.Perm t.toList :=
      (List.subperm_of_subset s.nodup hsubset).perm_of_length_le (Nat.le_of_eq hsize.symm)
    exact hperm.mem_iff
  · intro h
    have hperm := (List.perm_ext_iff_of_nodup s.nodup t.nodup).2 h
    exact ⟨hperm.length_eq, fun name hname => contains_iff.2 ((h name).1 hname)⟩

theorem sameMembers_equivalence : Equivalence fun s t : TypeSet => s.sameMembers t = true where
  refl _ := sameMembers_iff.2 fun _ => Iff.rfl
  symm h := sameMembers_iff.2 fun name => (sameMembers_iff.1 h name).symm
  trans h h' := sameMembers_iff.2 fun name =>
    (sameMembers_iff.1 h name).trans (sameMembers_iff.1 h' name)

/-- What is done with `s` and `t` gives equal results for `s'` and `t'`: sets with the same members,
    and the same answers. -/
structure Indistinguishable (s s' t t' : TypeSet) : Prop where
  union : (s ∪ t).sameMembers (s' ∪ t') = true
  difference : (s.difference t).sameMembers (s'.difference t') = true
  retain : ∀ keep, (s.filter keep).sameMembers (s'.filter keep) = true
  contains : ∀ name, s.contains name = s'.contains name
  size : s.size = s'.size

theorem indistinguishable_of_sameMembers {s s' t t' : TypeSet} (hs : s.sameMembers s' = true)
    (ht : t.sameMembers t' = true) : Indistinguishable s s' t t' := by
  have hmem := sameMembers_iff.1 hs
  have hmem' := sameMembers_iff.1 ht
  exact {
    union := sameMembers_iff.2 fun name => by rw [mem_union, mem_union, hmem, hmem']
    difference := sameMembers_iff.2 fun name => by rw [mem_difference, mem_difference, hmem, hmem']
    retain := fun keep => sameMembers_iff.2 fun name => by rw [mem_filter, mem_filter, hmem]
    contains := fun name => by rw [Bool.eq_iff_iff, contains_iff, contains_iff, hmem]
    size := by
      unfold sameMembers at hs
      rw [Bool.and_eq_true, beq_iff_eq] at hs
      exact hs.1 }

/-- **A set of types is ordered by insertion.** Start with written names or with a single one. After
    any sequence of operations the members are pairwise different, and stand in the order of their
    first insertion since which they were never removed. As lists, unions are associative and
    idempotent, and a difference may be taken before or after a union. Having the same members is an
    equivalence, and the operations cannot tell such sets apart. -/
theorem insertion_ordered_laws :
    (∀ (texts : List String) (ops : List Operation), InsertionOrdered
      (texts.map (fun text => .inserted (.ofText text)) ++ ops.flatMap Operation.events)
      (ops.foldl Operation.apply (ofTexts texts))) ∧
    (∀ (name : ClassName) (ops : List Operation), InsertionOrdered
      (.inserted name :: ops.flatMap Operation.events) (ops.foldl Operation.apply (single name))) ∧
    (∀ a b c : TypeSet, (a ∪ b ∪ c).toList = (a ∪ (b ∪ c)).toList) ∧
    (∀ a : TypeSet, (a ∪ a).toList = a.toList) ∧
    (∀ a b c : TypeSet,
      ((a ∪ b).difference c).toList = (a.difference c ∪ b.difference c).toList) ∧
    Equivalence (fun s t : TypeSet => s.sameMembers t = true) ∧
    ∀ s s' t t' : TypeSet, s.sameMembers s' = true → t.sameMembers t' = true →
      Indistinguishable s s' t t' := by
  refine ⟨?_, ?_, ?_, ?_, ?_, sameMembers_equivalence, ?_⟩
  · intro texts ops
    have hstart := insertionOrdered_ofList (texts.map ClassName.ofText)
    rw [List.map_map] at hstart
    exact hstart.foldl_operations ops
  · intro name ops
    exact (insertionOrdered_ofList [name]).foldl_operations ops
  · intro a b c
    rw [union_assoc]
  · intro a
    rw [union_self]
  · intro a b c
    rw [union_difference]
  · intro s s' t t' hs ht
    exact indistinguishable_of_sameMembers hs ht

/-- A name is removed, another inserted, and the first comes again. -/
def readding : List Operation :=
  [.difference (ofTexts ["Io"]), .insert ⟨"Net"⟩, .union (ofTexts ["Io", "Db"])]

/-- The name that was removed comes in behind those that were inserted in the meantime. Two orders
    of the same names are different lists, but no operation tells them apart. -/
theorem insertion_ordered_laws_readding :
    (readding.foldl Operation.apply (ofTexts ["Io", "\\Db", " Io "])).toList
      = [⟨"Db"⟩, ⟨"Net"⟩, ⟨"Io"⟩] ∧
    InsertionOrdered
      ([.inserted ⟨"Io"⟩, .inserted ⟨"Db"⟩, .inserted ⟨"Io"⟩, .removed (ofTexts ["Io"]).contains,
        .inserted ⟨"Net"⟩, .inserted ⟨"Io"⟩, .inserted ⟨"Db"⟩])
      (readding.foldl Operation.apply (ofTexts ["Io", "\\Db", " Io "])) ∧
    (ofTexts ["Io", "Db"]).toList ≠ (ofTexts ["Db", "Io"]).toList ∧
    (ofTexts ["Io", "Db"]).sameMembers (ofTexts ["Db", "Io"]) = true ∧
    (ofTexts ["Db"]).sameMembers (single ⟨"Db"⟩) = true ∧
    Indistinguishable (ofTexts ["Io", "Db"]) (ofTexts ["Db", "Io"]) (ofTexts ["Db"])
      (single ⟨"Db"⟩) := by
  obtain ⟨hordered, -, -, -, -, -, hcongr⟩ := insertion_ordered_laws
  refine ⟨by decide +kernel, hordered ["Io", "\\Db", " Io "] readding, by decide +kernel,
    by decide +kernel, by decide +kernel, ?_⟩
  exact hcongr _ _ _ _ (by decide +kernel) (by decide +kernel)

end ExceptionFlow.TypeSet
