set_option autoImplicit false

/-! # Catalogs

A catalog holds items that are told apart by a key. Putting an item replaces the one with the same
key, in its place, or else appends. The keys are pairwise different by construction, so a look-up
has one possible answer and the number of items is the number of keys. -/

namespace ExceptionFlow

/-- Items with pairwise different keys, in the order in which the keys came. -/
structure Catalog {α κ : Type} (key : α → κ) where
  items : List α
  nodup_keys : (items.map key).Nodup

namespace Catalog

variable {α κ : Type} {key : α → κ}

/-- The catalog without items. -/
def empty : Catalog key := ⟨[], List.nodup_nil⟩

instance : EmptyCollection (Catalog key) := ⟨empty⟩

variable [DecidableEq κ]

/-- Replace the item with the key of `a`, or append `a`. -/
def replaceOrAppend (key : α → κ) (a : α) : List α → List α
  | [] => [a]
  | b :: rest => if key b = key a then a :: rest else b :: replaceOrAppend key a rest

theorem map_replaceOrAppend (a : α) (items : List α) :
    (replaceOrAppend key a items).map key
      = if key a ∈ items.map key then items.map key else items.map key ++ [key a] := by
  induction items with
  | nil => simp [replaceOrAppend]
  | cons b rest ih =>
    by_cases h : key b = key a
    · simp [replaceOrAppend, h]
    · have h' : ¬ key a = key b := fun e => h e.symm
      simp only [replaceOrAppend, if_neg h, List.map_cons, ih, List.mem_cons, h', false_or]
      split <;> simp

/-- Add an item, in place of the one with its key if there is one. -/
def put (c : Catalog key) (a : α) : Catalog key where
  items := replaceOrAppend key a c.items
  nodup_keys := by
    rw [map_replaceOrAppend]
    split
    · exact c.nodup_keys
    · rename_i h
      rw [List.nodup_append]
      refine ⟨c.nodup_keys, by simp, ?_⟩
      intro x hx y hy hxy
      simp only [List.mem_singleton] at hy
      exact h (hy ▸ hxy ▸ hx)

/-- Put the items one after the other; of two with one key the later stays. -/
def ofList (items : List α) : Catalog key := items.foldl put empty

/-- The item with the given key. -/
def get? (c : Catalog key) (k : κ) : Option α := c.items.find? fun a => decide (key a = k)

/-- The number of items. -/
def size (c : Catalog key) : Nat := c.items.length

theorem mem_of_get? {c : Catalog key} {k : κ} {a : α} (h : c.get? k = some a) : a ∈ c.items :=
  List.mem_of_find?_eq_some h

theorem key_of_get? {c : Catalog key} {k : κ} {a : α} (h : c.get? k = some a) : key a = k := by
  simpa using List.find?_some h

/-- A look-up gives the one item that has the key. -/
theorem get?_eq_some_iff {c : Catalog key} {k : κ} {a : α} :
    c.get? k = some a ↔ a ∈ c.items ∧ key a = k := by
  refine ⟨fun h => ⟨mem_of_get? h, key_of_get? h⟩, ?_⟩
  rintro ⟨ha, rfl⟩
  have unique : ∀ items : List α, (items.map key).Nodup → a ∈ items →
      items.find? (fun b => decide (key b = key a)) = some a := by
    intro items
    induction items with
    | nil => simp
    | cons b rest ih =>
      intro hnd ha
      rw [List.map_cons, List.nodup_cons] at hnd
      rcases List.mem_cons.1 ha with rfl | ha
      · simp
      · have hb : ¬ key b = key a := fun e => hnd.1 (e ▸ List.mem_map_of_mem ha)
        simpa [hb] using ih hnd.2 ha
  exact unique c.items c.nodup_keys ha

@[simp] theorem get?_empty (k : κ) : (empty : Catalog key).get? k = none := rfl

theorem get?_put (c : Catalog key) (a : α) (k : κ) :
    (c.put a).get? k = if key a = k then some a else c.get? k := by
  have search : ∀ items : List α,
      (replaceOrAppend key a items).find? (fun b => decide (key b = k))
        = if key a = k then some a else items.find? (fun b => decide (key b = k)) := by
    intro items
    induction items with
    | nil => by_cases hk : key a = k <;> simp [replaceOrAppend, List.find?, hk]
    | cons b rest ih =>
      by_cases hb : key b = key a
      · by_cases hk : key a = k <;> simp [replaceOrAppend, List.find?, hb, hk]
      · rw [replaceOrAppend, if_neg hb, List.find?_cons, List.find?_cons, ih]
        by_cases hbk : key b = k
        · have hk : ¬ key a = k := fun e => hb (hbk.trans e.symm)
          simp [hbk, hk]
        · simp [hbk]
  exact search c.items

end Catalog

end ExceptionFlow
