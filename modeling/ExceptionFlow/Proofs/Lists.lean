import Mathlib.Data.List.Forall2

set_option autoImplicit false

/-! # Lists

What is said here holds of all lists: where an item stands in one, which items are left when some
are dropped, how a stable sort comes about, and what becomes of a list that is read item by item
where each may be refused (`mapM_cons_eq_ok_iff`). -/

namespace ExceptionFlow

/-! ## Places in a list -/

theorem exists_append_cons_of_getElem? {α : Type} {l : List α} {i : Nat} {a : α}
    (h : l[i]? = some a) : ∃ xs ys, l = xs ++ a :: ys ∧ xs.length = i := by
  obtain ⟨hlt, rfl⟩ := List.getElem?_eq_some_iff.1 h
  obtain ⟨xs, ys, hsplit, hlength, -⟩ := @List.exists_of_set α i l[i] l hlt
  exact ⟨xs, ys, hsplit, hlength⟩

/-- Of two places in a sequence, the second is before the first, is the same, or is behind it. -/
theorem append_cons_cases {α : Type} {xs ys before after : List α} {x a : α}
    (h : xs ++ x :: ys = before ++ a :: after) :
    (∃ mid, xs = before ++ a :: mid ∧ after = mid ++ x :: ys) ∨
    (before = xs ∧ a = x ∧ after = ys) ∨
    ∃ mid, before = xs ++ x :: mid ∧ ys = mid ++ a :: after := by
  rcases List.append_eq_append_iff.1 h with ⟨mid, rfl, hmid⟩ | ⟨mid, rfl, hmid⟩
  · cases mid with
    | nil =>
      obtain ⟨rfl, rfl⟩ := List.cons.inj hmid
      exact .inr (.inl ⟨List.append_nil _, rfl, rfl⟩)
    | cons first mid =>
      obtain ⟨rfl, rfl⟩ := List.cons.inj hmid
      exact .inr (.inr ⟨mid, rfl, rfl⟩)
  · cases mid with
    | nil =>
      obtain ⟨rfl, rfl⟩ := List.cons.inj hmid
      exact .inr (.inl ⟨(List.append_nil _).symm, rfl, rfl⟩)
    | cons first mid =>
      obtain ⟨rfl, rfl⟩ := List.cons.inj hmid
      exact .inl ⟨mid, rfl, rfl⟩

theorem set_append_cons {α : Type} (before : List α) (a b : α) (after : List α) :
    (before ++ a :: after).set before.length b = before ++ b :: after := by
  rw [List.set_append_right _ _ (Nat.le_refl _), Nat.sub_self, List.set_cons_zero]

theorem take_append_cons_append {α : Type} (before : List α) (a : α) (inner after : List α) :
    (before ++ a :: (inner ++ after)).take (before.length + (inner.length + 1))
      = before ++ a :: inner := by
  rw [← List.cons_append, ← List.append_assoc]
  refine List.take_left' ?_
  rw [List.length_append, List.length_cons]

/-! ## Items with their positions -/

theorem map_zipIdx_fst {α β : Type} (f : α → β) (l : List α) :
    (l.zipIdx.map fun p => f p.1) = l.map f := by
  rw [← Function.comp_def f Prod.fst, ← List.map_map, List.zipIdx_map_fst]

theorem any_zipIdx_fst {α : Type} (p : α → Bool) (l : List α) :
    (l.zipIdx.any fun q => p q.1) = l.any p := by
  rw [← Function.comp_def p Prod.fst, ← List.any_map, List.zipIdx_map_fst]

theorem take_zipIdx {α : Type} (l : List α) (k : Nat) : l.zipIdx.take k = (l.take k).zipIdx := by
  apply List.ext_getElem?
  intro j
  rw [List.getElem?_take, List.getElem?_zipIdx, List.getElem?_zipIdx, List.getElem?_take]
  split <;> rfl

theorem pairwise_zipIdx {α : Type} (l : List α) : l.zipIdx.Pairwise fun p q => p.2 < q.2 := by
  have hpositions : (l.zipIdx.map Prod.snd).Pairwise (· < ·) := by
    rw [List.zipIdx_map_snd]
    exact List.pairwise_lt_range'
  exact List.pairwise_map.1 hpositions

theorem nodup_zipIdx {α : Type} (l : List α) : l.zipIdx.Nodup :=
  (pairwise_zipIdx l).imp fun hlt heq => Nat.ne_of_lt hlt (congrArg Prod.snd heq)

theorem modify_map_zipIdx {α β : Type} (g : α × Nat → β) (f : β → β) (l : List α) (n : Nat) :
    (l.zipIdx.map g).modify n f = l.zipIdx.map fun p => if n = p.2 then f (g p) else g p := by
  apply List.ext_getElem?
  intro j
  rw [List.getElem?_modify]
  simp only [List.getElem?_map, List.getElem?_zipIdx]
  cases l[j]? with
  | none => simp
  | some a => by_cases h : n = j <;> simp [h]

theorem mem_take_iff_getElem? {α : Type} {l : List α} {k : Nat} {a : α} :
    a ∈ l.take k ↔ ∃ m < k, l[m]? = some a := by
  simp only [List.mem_iff_getElem?, List.getElem?_take]
  constructor
  · rintro ⟨m, hm⟩
    split at hm
    · rename_i hlt
      exact ⟨m, hlt, hm⟩
    · cases hm
  · rintro ⟨m, hlt, hm⟩
    exact ⟨m, by rw [if_pos hlt, hm]⟩

theorem map_mapIdx_eq_map {α β : Type} {edit : Nat → α → α} {f : α → β} {l : List α}
    (h : ∀ k a, l[k]? = some a → f (edit k a) = f a) : (l.mapIdx edit).map f = l.map f := by
  apply List.ext_getElem?
  intro k
  rw [List.getElem?_map, List.getElem?_map, List.getElem?_mapIdx]
  cases hk : l[k]? with
  | none => rfl
  | some a => rw [Option.map_some, Option.map_some, Option.map_some, h k a hk]

/-! ## Parts of a list -/

theorem mem_cons_iff_of_not_mem {α : Type} {a b : α} {part l : List α} (ha : a ∉ l) (hb : b ∈ l) :
    b ∈ a :: part ↔ b ∈ part := by
  have hne : b ≠ a := fun heq => ha (heq ▸ hb)
  simp [hne]

/-- The members of a part of a list of distinct items, in the order of the list, are that part. -/
theorem filter_mem_of_sublist {α : Type} [BEq α] [LawfulBEq α] {part l : List α}
    (h : part.Sublist l) (hl : l.Nodup) : (l.filter fun a => decide (a ∈ part)) = part := by
  induction h with
  | slnil => rfl
  | @cons part l a hsub ih =>
    obtain ⟨hfresh, hl⟩ := List.nodup_cons.1 hl
    have hnot : a ∉ part := fun hmem => hfresh (hsub.mem hmem)
    rw [List.filter_cons_of_neg (by simpa using hnot), ih hl]
  | @cons_cons part l a hsub ih =>
    obtain ⟨hfresh, hl⟩ := List.nodup_cons.1 hl
    have hsame : (l.filter fun b => decide (b ∈ a :: part)) = l.filter fun b => decide (b ∈ part) :=
      List.filter_congr fun b hb => decide_eq_decide.2 (mem_cons_iff_of_not_mem hfresh hb)
    rw [List.filter_cons_of_pos (by simp), hsame, ih hl]

/-- Where no two items in order have some property, an item that has it is the only one. -/
theorem countP_eq_one {α : Type} {before : α → α → Prop} {p : α → Bool} {l : List α}
    (hl : l.Pairwise before) (hp : ∀ a b, p a = true → p b = true → ¬ before a b)
    (h : ∃ a ∈ l, p a = true) : l.countP p = 1 := by
  obtain ⟨a, ha, hpa⟩ := h
  obtain ⟨ahead, behind, rfl⟩ := List.append_of_mem ha
  obtain ⟨-, hbehind, hahead⟩ := List.pairwise_append.1 hl
  have hnoneAhead : ahead.countP p = 0 := by
    refine List.countP_eq_zero.2 ?_
    intro b hb hpb
    exact hp b a hpb hpa (hahead b hb a List.mem_cons_self)
  have hnoneBehind : behind.countP p = 0 := by
    refine List.countP_eq_zero.2 ?_
    intro b hb hpb
    exact hp a b hpa hpb ((List.pairwise_cons.1 hbehind).1 b hb)
  rw [List.countP_append, List.countP_cons_of_pos hpa, hnoneAhead, hnoneBehind]

theorem flatMap_congr_forall₂ {α β γ : Type} {R : α → β → Prop} {f : α → List γ} {g : β → List γ}
    {as : List α} {bs : List β} (h : List.Forall₂ R as bs) (hfg : ∀ a b, R a b → f a = g b) :
    as.flatMap f = bs.flatMap g := by
  induction h with
  | nil => rfl
  | cons hab _ ih => rw [List.flatMap_cons, List.flatMap_cons, hfg _ _ hab, ih]

/-! ## Stable sorts -/

section StableSort

variable {α : Type} {le : α → α → Bool}

/-- A stable sort places a first item behind those that have to precede it and before all others. -/
theorem mergeSort_cons_eq (trans : ∀ a b c, le a b = true → le b c = true → le a c = true)
    (total : ∀ a b, (le a b || le b a) = true) (a : α) (l : List α) :
    (a :: l).mergeSort le
      = (l.mergeSort le).filter (fun b => !le a b) ++ a :: (l.mergeSort le).filter (le a) := by
  obtain ⟨ahead, behind, hcons, hl, hahead⟩ := List.mergeSort_cons trans total a l
  have hbehind : ∀ b ∈ behind, le a b = true := by
    have hsorted := List.pairwise_mergeSort trans total (a :: l)
    rw [hcons, List.pairwise_append, List.pairwise_cons] at hsorted
    exact hsorted.2.1.1
  have hnot : ∀ b ∈ ahead, ¬ le a b = true := by
    intro b hb
    simpa using hahead b hb
  rw [hcons, hl, List.filter_append, List.filter_append, List.filter_eq_self.2 hahead,
    List.filter_eq_self.2 hbehind, List.filter_eq_nil_iff.2 hnot, List.filter_eq_nil_iff.2,
    List.append_nil, List.nil_append]
  intro b hb
  simp [hbehind b hb]

/-- A stable sort puts one item after the other in its place, the last one first. -/
theorem mergeSort_eq_foldr (trans : ∀ a b c, le a b = true → le b c = true → le a c = true)
    (total : ∀ a b, (le a b || le b a) = true) (l : List α) :
    l.mergeSort le
      = l.foldr (fun a sorted => sorted.filter (fun b => !le a b) ++ a :: sorted.filter (le a))
          [] := by
  induction l with
  | nil => simp
  | cons a rest ih => rw [mergeSort_cons_eq trans total, ih, List.foldr_cons]

/-- Leaving items out and sorting the others commute. -/
theorem mergeSort_filter (trans : ∀ a b c, le a b = true → le b c = true → le a c = true)
    (total : ∀ a b, (le a b || le b a) = true) (keep : α → Bool) (l : List α) :
    (l.filter keep).mergeSort le = (l.mergeSort le).filter keep := by
  induction l with
  | nil => simp
  | cons a rest ih =>
    by_cases ha : keep a = true
    · have hcomm (p : α → Bool) : ((rest.mergeSort le).filter keep).filter p
          = ((rest.mergeSort le).filter p).filter keep := List.filter_comm ..
      rw [List.filter_cons_of_pos ha, mergeSort_cons_eq trans total, ih, hcomm, hcomm,
        mergeSort_cons_eq trans total, List.filter_append, List.filter_cons_of_pos ha]
    · obtain ⟨ahead, behind, hcons, hrest, -⟩ := List.mergeSort_cons trans total a rest
      rw [List.filter_cons_of_neg ha, ih, hcons, hrest, List.filter_append, List.filter_append,
        List.filter_cons_of_neg ha]

/-- A stable sort puts items in order and keeps the order of those that compare equal. -/
theorem pairwise_mergeSort_stable
    (trans : ∀ a b c, le a b = true → le b c = true → le a c = true)
    (total : ∀ a b, (le a b || le b a) = true) {before : α → α → Prop} {l : List α}
    (h : l.Pairwise before) :
    (l.mergeSort le).Pairwise fun a b => le a b = true ∧ (le b a = true → before a b) := by
  induction l with
  | nil => simp
  | cons a rest ih =>
    obtain ⟨hfirst, hrest⟩ := List.pairwise_cons.1 h
    have hsorted := ih hrest
    have hahead {b : α} (hb : ¬ le a b = true) : le b a = true := by
      simpa [hb] using total a b
    rw [mergeSort_cons_eq trans total, List.pairwise_append, List.pairwise_cons]
    refine ⟨hsorted.sublist List.filter_sublist, ⟨?_, hsorted.sublist List.filter_sublist⟩, ?_⟩
    · intro b hb
      obtain ⟨hmem, hle⟩ := List.mem_filter.1 hb
      exact ⟨hle, fun _ => hfirst b (List.mem_mergeSort.1 hmem)⟩
    · -- what goes ahead of `a` is strictly before it, and so before all that goes behind
      intro b hb c hc
      have hnot : ¬ le a b = true := by
        simpa using (List.mem_filter.1 hb).2
      have hac : le a c = true := by
        rcases List.mem_cons.1 hc with rfl | hbehind
        · simpa using total c c
        · exact (List.mem_filter.1 hbehind).2
      refine ⟨trans b a c (hahead hnot) hac, ?_⟩
      intro hcb
      exact absurd (trans a c b hac hcb) hnot

end StableSort

/-! ## Items that may be refused -/

theorem exists_of_isOk {ε α : Type} {x : Except ε α} (h : x.isOk = true) : ∃ a, x = .ok a := by
  cases x with
  | error e => cases h
  | ok a => exact ⟨a, rfl⟩

theorem isOk_map {ε α β : Type} (g : α → β) (x : Except ε α) : (x.map g).isOk = x.isOk := by
  cases x <;> rfl

theorem mapM_cons_eq_ok_iff {ε α β : Type} {f : α → Except ε β} {x : α} {xs : List α}
    {ys : List β} :
    (x :: xs).mapM f = .ok ys
      ↔ ∃ y rest, f x = .ok y ∧ xs.mapM f = .ok rest ∧ ys = y :: rest := by
  rw [List.mapM_cons]
  cases f x with
  | error e => simp [bind, Except.bind]
  | ok y =>
    cases xs.mapM f with
    | error e => simp [bind, Except.bind]
    | ok rest => simp [bind, Except.bind, pure, Except.pure, eq_comm]

/-- What is read of a list is what is read of its items. -/
theorem mem_iff_of_mapM_eq_ok {ε α β : Type} {f : α → Except ε β} {xs : List α} {ys : List β}
    {y : β} (h : xs.mapM f = .ok ys) : y ∈ ys ↔ ∃ x ∈ xs, f x = .ok y := by
  induction xs generalizing ys with
  | nil =>
    cases h
    simp
  | cons x rest ih =>
    obtain ⟨first, others, hfirst, hothers, rfl⟩ := mapM_cons_eq_ok_iff.1 h
    simp [ih hothers, hfirst, eq_comm]

/-- Reading items and converting what was read may be done item by item or for the whole list. -/
theorem mapM_map_except {ε α β γ : Type} (f : α → Except ε β) (g : β → γ) (xs : List α) :
    (xs.mapM fun x => (f x).map g) = (xs.mapM f).map (List.map g) := by
  induction xs with
  | nil => rfl
  | cons x rest ih =>
    rw [List.mapM_cons, List.mapM_cons, ih]
    cases f x with
    | error e => rfl
    | ok y => cases rest.mapM f <;> rfl

/-- If all of a list can be read, so can it be in any order. -/
theorem exists_mapM_eq_ok_of_perm {ε α β : Type} {f : α → Except ε β} {xs ys : List α}
    (h : xs.Perm ys) {found : List β} (hfound : xs.mapM f = .ok found) :
    ∃ found', ys.mapM f = .ok found' ∧ found.Perm found' := by
  induction h generalizing found with
  | nil => exact ⟨found, hfound, .refl _⟩
  | cons x _ ih =>
    obtain ⟨y, rest, hx, hrest, rfl⟩ := mapM_cons_eq_ok_iff.1 hfound
    obtain ⟨rest', hrest', hperm⟩ := ih hrest
    exact ⟨y :: rest', mapM_cons_eq_ok_iff.2 ⟨y, rest', hx, hrest', rfl⟩, hperm.cons y⟩
  | swap x x' xs =>
    obtain ⟨y', _, hx', htail, rfl⟩ := mapM_cons_eq_ok_iff.1 hfound
    obtain ⟨y, rest, hx, hrest, rfl⟩ := mapM_cons_eq_ok_iff.1 htail
    have hswapped := mapM_cons_eq_ok_iff.2 ⟨y', rest, hx', hrest, rfl⟩
    exact ⟨y :: y' :: rest, mapM_cons_eq_ok_iff.2 ⟨y, _, hx, hswapped, rfl⟩, .swap y y' rest⟩
  | trans _ _ ih ih' =>
    obtain ⟨between, hbetween, hperm⟩ := ih hfound
    obtain ⟨found', hfound', hperm'⟩ := ih' hbetween
    exact ⟨found', hfound', hperm.trans hperm'⟩

theorem isOk_mapM_perm {ε α β : Type} {f : α → Except ε β} {xs ys : List α} (h : xs.Perm ys) :
    (xs.mapM f).isOk = (ys.mapM f).isOk := by
  have hdirection {xs ys : List α} (h : xs.Perm ys) (hok : (xs.mapM f).isOk = true) :
      (ys.mapM f).isOk = true := by
    obtain ⟨found, hfound⟩ := exists_of_isOk hok
    obtain ⟨found', hfound', -⟩ := exists_mapM_eq_ok_of_perm h hfound
    rw [hfound']
    rfl
  rw [Bool.eq_iff_iff]
  exact ⟨hdirection h, hdirection h.symm⟩

theorem perm_of_mapM_eq_ok {ε α β : Type} {f : α → Except ε β} {xs ys : List α}
    {found found' : List β} (h : xs.Perm ys) (hfound : xs.mapM f = .ok found)
    (hfound' : ys.mapM f = .ok found') : found.Perm found' := by
  obtain ⟨again, hagain, hperm⟩ := exists_mapM_eq_ok_of_perm h hfound
  rw [hagain] at hfound'
  cases hfound'
  exact hperm

end ExceptionFlow
