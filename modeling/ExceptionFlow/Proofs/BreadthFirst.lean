import Mathlib.Data.ENat.Lattice
import ExceptionFlow.Proofs.Subtyping

set_option autoImplicit false

/-! # The order of the ancestors

The ancestors of a class are found by a loop that takes names from the front of a queue, marks their
keys, and puts their supertypes at the end. `Hierarchy.Searches` is that loop, without any bound on
how often it goes round. It ends, and what it lists are the ancestors (`searches_ancestors`).

The queue holds names of at most two neighbouring distances from the start, the nearer ones in front
(`Levelled`). What is not marked yet is therefore never nearer than the front of the queue, and the
ancestors are listed by their distance. None of this needs the classes to be free of circles. -/

namespace ExceptionFlow

open Relation (TransGen ReflTransGen)

/-! ## The loop -/

namespace Hierarchy

variable (H : Hierarchy)

/-- What the loop lists, given the keys that are marked and the names that wait. -/
inductive Searches : List String → List ClassName → List ClassName → Prop where
  | ends (seen : List String) : Searches seen [] []
  | skips {seen : List String} {next : ClassName} {queue found : List ClassName} :
      next.key ∈ seen → Searches seen queue found → Searches seen (next :: queue) found
  | visits {seen : List String} {next : ClassName} {queue found : List ClassName} :
      next.key ∉ seen → Searches (next.key :: seen) (queue ++ H.supertypesOf next) found →
        Searches seen (next :: queue) (H.normalizeName next :: found)

variable {H}

theorem mem_supertypesOf {name parent : ClassName} :
    parent ∈ H.supertypesOf name ↔ ∃ d, H.find? name = some d ∧ parent ∈ d.supertypes := by
  rw [supertypesOf]
  cases H.find? name with
  | none => simp
  | some d => simp

/-- The loop has one outcome. -/
theorem Searches.unique {seen : List String} {queue found other : List ClassName}
    (h : H.Searches seen queue found) (hother : H.Searches seen queue other) : other = found := by
  induction h generalizing other with
  | ends seen =>
    cases hother
    rfl
  | skips hmem _ ih =>
    cases hother with
    | skips _ hrest => exact ih hrest
    | visits hnot _ => exact absurd hmem hnot
  | visits hnot _ ih =>
    cases hother with
    | skips hmem _ => exact absurd hmem hnot
    | visits _ hrest => rw [ih hrest]

/-- The search through fresh keys is the loop, as long as the fresh keys are those supertypes that
    are not marked. They get fewer with every visit, so the loop ends. -/
theorem searches_climb {seen : List String} (fresh : List String) :
    (queue : List ClassName) → (∀ k ∈ H.supertypeKeys, k ∈ fresh ↔ k ∉ seen) →
      (∀ name ∈ queue, name.key ∈ H.supertypeKeys) → H.Searches seen queue (H.climb fresh queue)
  | [], _, _ => by
    rw [climb_nil]
    exact .ends seen
  | next :: queue, hfresh, hqueue => by
    have hnext : next.key ∈ fresh ↔ next.key ∉ seen := hfresh _ (hqueue next List.mem_cons_self)
    have hrest : ∀ name ∈ queue, name.key ∈ H.supertypeKeys := fun name hname =>
      hqueue name (List.mem_cons_of_mem _ hname)
    by_cases hmem : next.key ∈ fresh
    · have := length_without_lt hmem
      rw [climb_cons_of_mem _ queue hmem]
      refine .visits (hnext.1 hmem) (searches_climb _ _ ?_ ?_)
      · intro k hk
        simp [mem_without, hfresh k hk, and_comm]
      · intro name hname
        rcases List.mem_append.1 hname with hwaits | hparent
        · exact hrest name hwaits
        · obtain ⟨d, hd, hparent⟩ := mem_supertypesOf.1 hparent
          exact H.mem_supertypeKeys hd hparent
    · rw [climb_cons_of_not_mem _ queue hmem]
      have hseen : next.key ∈ seen := not_not.1 fun hnot => hmem (hnext.2 hnot)
      exact .skips hseen (searches_climb fresh queue hfresh hrest)
termination_by queue => (fresh.length, queue.length)

/-- **The loop ends, and it lists the ancestors.** -/
theorem searches_ancestors {name : ClassName} {d : ClassDecl} (h : H.find? name = some d) :
    H.Searches [d.name.key] d.supertypes (H.ancestors name) := by
  rw [ancestors, h]
  refine searches_climb _ _ ?_ ?_
  · intro k hk
    simp [mem_without, hk]
  · intro parent hparent
    exact H.mem_supertypeKeys h hparent

end Hierarchy

namespace Registry

variable (r : Registry)

/-! ## Distance -/

/-- One key is reached from another by going up some number of times to a direct supertype. -/
inductive Climbs (start : String) : Nat → String → Prop where
  | here : Climbs start 0 start
  | up {n : Nat} {k above : String} :
      Climbs start n k → r.Extends k above → Climbs start (n + 1) above

/-- How many times one has to go up from one key to the other, at least. -/
noncomputable def distance (start k : String) : ℕ∞ :=
  ⨅ (n : Nat) (_ : r.Climbs start n k), (n : ℕ∞)

variable {r} {start : String}

theorem distance_le {n : Nat} {k : String} (h : r.Climbs start n k) : r.distance start k ≤ n :=
  iInf₂_le n h

theorem le_distance {level : Nat} {k : String} (h : ∀ n, r.Climbs start n k → level ≤ n) :
    (level : ℕ∞) ≤ r.distance start k :=
  le_iInf₂ fun n hn => Nat.cast_le.2 (h n hn)

/-! ## Levels of the queue -/

variable (r) in
/-- The names that wait are in two groups: those `now` in front are at some level above the start,
    and those `later` are one level higher. Nothing that is not marked yet lies below that level,
    what lies on it waits now, and the supertypes of what is marked are marked or wait. -/
structure Levelled (start : String) (seen : List String) (level : Nat)
    (now later : List ClassName) : Prop where
  now_climbs : ∀ name ∈ now, r.Climbs start level name.key
  later_climbs : ∀ name ∈ later, r.Climbs start (level + 1) name.key
  below_seen : ∀ {n : Nat} {k : String}, r.Climbs start n k → n < level → k ∈ seen
  level_waits : ∀ {k : String}, r.Climbs start level k → k ∉ seen → k ∈ now.map ClassName.key
  closed : ∀ {k above : String}, k ∈ seen → r.Extends k above → above ∉ seen →
    above ∈ (now ++ later).map ClassName.key

namespace Levelled

variable {seen : List String} {level : Nat} {now later : List ClassName}

theorem le_of_not_seen (h : r.Levelled start seen level now later) {k : String} (hk : k ∉ seen)
    {n : Nat} (hclimbs : r.Climbs start n k) : level ≤ n := by
  by_contra hlt
  exact hk (h.below_seen hclimbs (by omega))

/-- When nothing waits on a level any more, the next one begins. -/
theorem next_level (h : r.Levelled start seen level [] later) :
    r.Levelled start seen (level + 1) later [] := by
  have hlevel {k : String} (hk : r.Climbs start level k) : k ∈ seen := by
    by_contra hnot
    exact List.not_mem_nil (h.level_waits hk hnot)
  constructor
  · exact h.later_climbs
  · intro name hname
    cases hname
  · intro n k hk hlt
    rcases Nat.lt_succ_iff_lt_or_eq.1 hlt with hbelow | rfl
    · exact h.below_seen hk hbelow
    · exact hlevel hk
  · intro k hk hnot
    cases hk with
    | up hbelow hext => exact h.closed (hlevel hbelow) hext hnot
  · intro k above hk hext hnot
    simpa using h.closed hk hext hnot

/-- The level can be chosen so that the front of the queue is on it. -/
theorem exists_front {next : ClassName} {queue : List ClassName}
    (h : r.Levelled start seen level now later) (hqueue : next :: queue = now ++ later) :
    ∃ level now later, queue = now ++ later ∧ r.Levelled start seen level (next :: now) later := by
  cases now with
  | cons first rest =>
    obtain ⟨rfl, rfl⟩ := List.cons.inj hqueue
    exact ⟨level, rest, later, rfl, h⟩
  | nil =>
    obtain rfl : next :: queue = later := hqueue
    exact ⟨level + 1, queue, [], (List.append_nil queue).symm, h.next_level⟩

/-- A name that was marked before leaves the queue. -/
theorem skip {next : ClassName} (h : r.Levelled start seen level (next :: now) later)
    (hnext : next.key ∈ seen) : r.Levelled start seen level now later := by
  have hother {k : String} (hk : k ∉ seen) : k ≠ next.key := fun he => hk (he ▸ hnext)
  constructor
  · exact fun name hname => h.now_climbs name (List.mem_cons_of_mem _ hname)
  · exact h.later_climbs
  · exact h.below_seen
  · intro k hk hnot
    have hwaits := h.level_waits hk hnot
    rw [List.map_cons, List.mem_cons] at hwaits
    exact hwaits.resolve_left (hother hnot)
  · intro k above hk hext hnot
    have hwaits := h.closed hk hext hnot
    rw [List.cons_append, List.map_cons, List.mem_cons] at hwaits
    exact hwaits.resolve_left (hother hnot)

/-- A name that is visited is marked, and its supertypes wait for the next level. -/
theorem visit {next : ClassName} (h : r.Levelled start seen level (next :: now) later) :
    r.Levelled start (next.key :: seen) level now (later ++ r.hierarchy.supertypesOf next) := by
  constructor
  · exact fun name hname => h.now_climbs name (List.mem_cons_of_mem _ hname)
  · intro name hname
    rcases List.mem_append.1 hname with hlater | hparent
    · exact h.later_climbs name hlater
    · exact .up (h.now_climbs next List.mem_cons_self) (extends_iff.2 ⟨name, hparent, rfl⟩)
  · exact fun hk hlt => List.mem_cons_of_mem _ (h.below_seen hk hlt)
  · intro k hk hnot
    obtain ⟨hne, hnot⟩ := not_or.1 (mt List.mem_cons.2 hnot)
    have hwaits := h.level_waits hk hnot
    rw [List.map_cons, List.mem_cons] at hwaits
    exact hwaits.resolve_left hne
  · intro k above hk hext hnot
    obtain ⟨hne, hnot⟩ := not_or.1 (mt List.mem_cons.2 hnot)
    rw [← List.append_assoc, List.map_append, List.mem_append]
    rcases List.mem_cons.1 hk with rfl | hseen
    · -- the supertypes of the name that is visited join the queue
      obtain ⟨parent, hparent, rfl⟩ := extends_iff.1 hext
      exact .inr (List.mem_map_of_mem hparent)
    · have hwaits := h.closed hseen hext hnot
      rw [List.cons_append, List.map_cons, List.mem_cons] at hwaits
      exact .inl (hwaits.resolve_left hne)

end Levelled

/-- At the beginning, the direct supertypes wait on the first level. -/
theorem levelled_start {a : ClassName} {d : ClassDecl} (h : r.hierarchy.find? a = some d) :
    r.Levelled a.key [a.key] 1 d.supertypes [] := by
  have hfirst {above : String} :
      r.Extends a.key above ↔ above ∈ d.supertypes.map ClassName.key := by
    rw [extends_iff, Hierarchy.supertypesOf, h, List.mem_map]
    rfl
  constructor
  · exact fun name hname => .up .here (hfirst.2 (List.mem_map_of_mem hname))
  · intro name hname
    cases hname
  · intro n k hk hlt
    obtain rfl : n = 0 := by omega
    cases hk
    exact List.mem_singleton.2 rfl
  · intro k hk _
    cases hk with
    | up hbelow hext =>
      cases hbelow
      exact hfirst.1 hext
  · intro k above hk hext _
    obtain rfl := List.mem_singleton.1 hk
    rw [List.append_nil]
    exact hfirst.1 hext

/-! ## What the loop lists -/

section Searches

variable {seen : List String} {queue found : List ClassName}

/-- The loop lists no key twice and none that was marked before. -/
theorem nodup_keys_of_searches (h : r.hierarchy.Searches seen queue found) :
    (found.map ClassName.key).Nodup ∧ ∀ name ∈ found, name.key ∉ seen := by
  induction h with
  | ends seen => simp
  | skips _ _ ih => exact ih
  | @visits seen next queue found hnot _ ih =>
    obtain ⟨hnodup, hunseen⟩ := ih
    constructor
    · rw [List.map_cons, List.nodup_cons, key_normalizeName]
      refine ⟨?_, hnodup⟩
      intro hmem
      obtain ⟨name, hname, hkey⟩ := List.mem_map.1 hmem
      exact hunseen name hname (List.mem_cons.2 (.inl hkey))
    · intro name hname
      rcases List.mem_cons.1 hname with rfl | hrest
      · rwa [key_normalizeName]
      · exact fun hseen => hunseen name hrest (List.mem_cons_of_mem _ hseen)

/-- The loop lists names by their distance from the start. -/
theorem pairwise_distance_of_searches (h : r.hierarchy.Searches seen queue found) :
    ∀ {level : Nat} {now later : List ClassName}, queue = now ++ later →
      r.Levelled start seen level now later →
        found.Pairwise fun b c => r.distance start b.key ≤ r.distance start c.key := by
  induction h with
  | ends seen =>
    intro level now later _ _
    exact .nil
  | skips hmem _ ih =>
    intro level now later hqueue hlevelled
    obtain ⟨level, now, later, hrest, hfront⟩ := hlevelled.exists_front hqueue
    exact ih hrest (hfront.skip hmem)
  | @visits seen next queue found hnot hsearches ih =>
    intro level now later hqueue hlevelled
    obtain ⟨level, now, later, rfl, hfront⟩ := hlevelled.exists_front hqueue
    refine List.pairwise_cons.2 ⟨?_, ih (List.append_assoc ..) hfront.visit⟩
    intro c hc
    have hunseen : c.key ∉ seen := fun hseen =>
      (nodup_keys_of_searches hsearches).2 c hc (List.mem_cons_of_mem _ hseen)
    calc r.distance start (r.hierarchy.normalizeName next).key
        = r.distance start next.key := by rw [key_normalizeName]
      _ ≤ level := distance_le (hfront.now_climbs next List.mem_cons_self)
      _ ≤ r.distance start c.key := le_distance fun n => hfront.le_of_not_seen hunseen

variable (r) in
/-- The name stands as a direct supertype in the class under some key, or in one above it. -/
def WrittenAbove (start : String) (name : ClassName) : Prop :=
  ∃ k d, ReflTransGen r.Extends start k ∧ r.classes.get? k = some d ∧ name ∈ d.supertypes

/-- The loop lists names that are written somewhere above the start, in their declared spelling. -/
theorem exists_written_of_searches (h : r.hierarchy.Searches seen queue found)
    (hqueue : ∀ name ∈ queue, r.WrittenAbove start name) {b : ClassName} (hb : b ∈ found) :
    ∃ name, r.WrittenAbove start name ∧ b = r.hierarchy.normalizeName name := by
  induction h with
  | ends seen => cases hb
  | skips _ _ ih => exact ih (fun name hname => hqueue name (List.mem_cons_of_mem _ hname)) hb
  | @visits seen next queue found _ _ ih =>
    obtain ⟨k, d, hreached, hd, hnext⟩ := hqueue next List.mem_cons_self
    rcases List.mem_cons.1 hb with rfl | hrest
    · exact ⟨next, ⟨k, d, hreached, hd, hnext⟩, rfl⟩
    · refine ih ?_ hrest
      intro name hname
      rcases List.mem_append.1 hname with hwaits | hparent
      · exact hqueue name (List.mem_cons_of_mem _ hwaits)
      · obtain ⟨e, he, hparent⟩ := Hierarchy.mem_supertypesOf.1 hparent
        exact ⟨next.key, e, hreached.tail ⟨d, hd, next, hnext, rfl⟩, he, hparent⟩

end Searches

/-! ## The ancestors -/

/-- A listed name is the declared one, or else a name that is not declared and stands above the
    start as it is written. -/
theorem spelling_of_mem_ancestors {a b : ClassName} (h : b ∈ r.hierarchy.ancestors a) :
    (∃ e, r.class? b = some e ∧ b = e.name) ∨ r.class? b = none ∧ r.WrittenAbove a.key b := by
  cases hd : r.hierarchy.find? a with
  | none => simp [Hierarchy.ancestors, hd] at h
  | some d =>
    have hqueue : ∀ name ∈ d.supertypes, r.WrittenAbove a.key name := fun name hname =>
      ⟨a.key, d, .refl, hd, hname⟩
    obtain ⟨name, hwritten, rfl⟩ :=
      exists_written_of_searches (Hierarchy.searches_ancestors hd) hqueue h
    have hfind : r.class? (r.hierarchy.normalizeName name) = r.class? name :=
      find?_congr (key_normalizeName name)
    rw [hfind]
    cases he : r.class? name with
    | none =>
      have hsame : r.hierarchy.normalizeName name = name := by
        rw [Hierarchy.normalizeName, Hierarchy.resolve?, show r.hierarchy.find? name = none from he]
        rfl
      rw [hsame]
      exact .inr ⟨rfl, hwritten⟩
    | some e =>
      refine .inl ⟨e, rfl, ?_⟩
      rw [Hierarchy.normalizeName, Hierarchy.resolve?, show r.hierarchy.find? name = some e from he]
      rfl

/-- **The ancestors are found breadth first.** An unknown class has none. For a class that is known,
    the loop ends, and the ancestors are what it lists. They are the keys that can be reached from
    the class by going up once or more, without its own, and each of them is there once: by its
    declared name, or as it is written if it is not declared. They are listed by their distance. All
    this holds in every registry. -/
theorem ancestors_breadth_first (r : Registry) (a : ClassName) :
    (r.class? a = none → r.hierarchy.ancestors a = []) ∧
    (∀ d, r.class? a = some d → ∀ found,
      r.hierarchy.Searches [d.name.key] d.supertypes found ↔ found = r.hierarchy.ancestors a) ∧
    (∀ k, k ∈ (r.hierarchy.ancestors a).map ClassName.key
      ↔ TransGen r.Extends a.key k ∧ k ≠ a.key) ∧
    ((r.hierarchy.ancestors a).map ClassName.key).Nodup ∧
    (∀ b ∈ r.hierarchy.ancestors a,
      (∃ e, r.class? b = some e ∧ b = e.name) ∨ r.class? b = none ∧ r.WrittenAbove a.key b) ∧
    (r.hierarchy.ancestors a).Pairwise fun b c =>
      r.distance a.key b.key ≤ r.distance a.key c.key := by
  refine ⟨?_, ?_, fun k => mem_keys_ancestors, ?_, fun b => spelling_of_mem_ancestors, ?_⟩
  · intro hnone
    rw [Hierarchy.ancestors, show r.hierarchy.find? a = none from hnone]
  · intro d hd found
    have hloop := Hierarchy.searches_ancestors (H := r.hierarchy) hd
    constructor
    · exact hloop.unique
    · rintro rfl
      exact hloop
  · cases hd : r.hierarchy.find? a with
    | none => simp [Hierarchy.ancestors, hd]
    | some d => exact (nodup_keys_of_searches (Hierarchy.searches_ancestors hd)).1
  · cases hd : r.hierarchy.find? a with
    | none => simp [Hierarchy.ancestors, hd]
    | some d =>
      have hloop := Hierarchy.searches_ancestors hd
      rw [key_of_find? hd] at hloop
      exact pairwise_distance_of_searches hloop (List.append_nil _).symm (levelled_start hd)

/-- Two ways lead up to one class, which extends the class that they start from; one of them passes
    a name that nobody declares, and one supertype is given twice. -/
def tangle : Registry :=
  [(((ClassDecl.bare ⟨"Leaf"⟩ .concrete).extending ⟨"left"⟩).implementing ⟨"Right"⟩).implementing
      ⟨"RIGHT"⟩,
    (ClassDecl.bare ⟨"Left"⟩ .concrete).extending ⟨"Base"⟩,
    ((ClassDecl.bare ⟨"Right"⟩ .interface).extending ⟨"Missing"⟩).extending ⟨"base"⟩,
    (ClassDecl.bare ⟨"Base"⟩ .concrete).extending ⟨"Leaf"⟩].foldl addClass .empty

/-- In the tangle, the two supertypes come first, in their declared spelling and once each; the name
    that nobody declares is listed, and the start is not. -/
theorem ancestors_breadth_first_tangle :
    tangle.hierarchy.ancestors ⟨"LEAF"⟩ = [⟨"Left"⟩, ⟨"Right"⟩, ⟨"Base"⟩, ⟨"Missing"⟩] ∧
    tangle.hierarchy.ancestors ⟨"Missing"⟩ = [] ∧
    (∀ found, tangle.hierarchy.Searches ["leaf"] [⟨"left"⟩, ⟨"Right"⟩, ⟨"RIGHT"⟩] found
      ↔ found = [⟨"Left"⟩, ⟨"Right"⟩, ⟨"Base"⟩, ⟨"Missing"⟩]) ∧
    tangle.WrittenAbove "leaf" ⟨"Missing"⟩ ∧
    tangle.distance "leaf" "right" ≤ tangle.distance "leaf" "base" := by
  have hancestors : tangle.hierarchy.ancestors ⟨"LEAF"⟩
      = [⟨"Left"⟩, ⟨"Right"⟩, ⟨"Base"⟩, ⟨"Missing"⟩] := by
    decide +kernel
  obtain ⟨-, hloop, -, -, hspelling, hdistance⟩ := ancestors_breadth_first tangle ⟨"LEAF"⟩
  obtain ⟨hnone, -⟩ := ancestors_breadth_first tangle ⟨"Missing"⟩
  rw [hancestors] at hspelling hdistance
  refine ⟨hancestors, hnone rfl, ?_, ?_, ?_⟩
  · rw [← hancestors]
    exact hloop _ rfl
  · rcases hspelling ⟨"Missing"⟩ (by simp) with ⟨e, he, -⟩ | ⟨-, hwritten⟩
    · cases he
    · exact hwritten
  · have hbase := (List.pairwise_cons.1 (List.pairwise_cons.1 hdistance).2).1 ⟨"Base"⟩ (by simp)
    exact hbase

end Registry

end ExceptionFlow
