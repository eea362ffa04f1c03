import ExceptionFlow.Inference
import ExceptionFlow.Proofs.BreadthFirst

set_option autoImplicit false

/-! # The nearest declaration of a method

A method is looked for in two places: among the configured throw types, by the keys of class names,
and among the declarations of the classes. Both look-ups ask the class first and then its ancestors
in turn, so both are a search along one list (`Hierarchy.upwards`) for the first name whose key has
an answer. The names in that list are those that can be reached from the class, and they stand by
their distance from it; the first answer is therefore a nearest one
(`Registry.nearest_of_findSome?`). A name that nobody declares has no methods, but it may well have
a configured entry.

The two look-ups are not weighed against each other: an entry counts before every annotation,
however far away the class is that it names (`Registry.nearest_declaration_wins`). -/

namespace ExceptionFlow

open Relation (ReflTransGen)

/-- A name and then its ancestors: the order in which a class and its supertypes are asked. -/
def Hierarchy.upwards (H : Hierarchy) (name : ClassName) : List ClassName :=
  name :: H.ancestors name

namespace Registry

variable (r : Registry)

/-- One of the keys with some property to which the way up from a key is shortest. -/
structure Nearest (start : String) (has : String → Prop) (k : String) : Prop where
  reached : ReflTransGen r.Extends start k
  found : has k
  least : ∀ other, has other → r.distance start k ≤ r.distance start other

/-- The class under a key declares a method of that name, in whatever case. -/
def DeclaresMethod (method k : String) : Prop :=
  ∃ e m, r.classes.get? k = some e ∧ m ∈ e.methods.items ∧
    Symbol.caseless m.name = Symbol.caseless method

end Registry

/-- There is a configured entry under a key for a method of that name, in whatever case. -/
def Defaults.Configures (d : Defaults) (method k : String) : Prop :=
  ∃ entry ∈ d.methods.items, entry.owner = k ∧ entry.method = Symbol.caseless method

namespace Registry

variable {r : Registry} {a : ClassName}

/-! ## The way up -/

theorem reached_of_climbs {start k : String} {n : Nat} (h : r.Climbs start n k) :
    ReflTransGen r.Extends start k := by
  induction h with
  | here => exact .refl
  | up _ hext ih => exact ih.tail hext

theorem distance_eq_top {start k : String} (h : ¬ ReflTransGen r.Extends start k) :
    r.distance start k = ⊤ := by
  refine iInf₂_eq_top.2 ?_
  intro n hclimbs
  exact absurd (reached_of_climbs hclimbs) h

/-- A class and its ancestors are the names that can be reached from it. -/
theorem mem_keys_upwards {k : String} :
    k ∈ (r.hierarchy.upwards a).map ClassName.key ↔ ReflTransGen r.Extends a.key k := by
  rw [Hierarchy.upwards, List.map_cons, List.mem_cons, mem_keys_ancestors,
    Relation.reflTransGen_iff_eq_or_transGen]
  by_cases hk : k = a.key
  · simp [hk]
  · simp [hk]

/-- They stand by their distance from it. -/
theorem pairwise_distance_upwards (r : Registry) (a : ClassName) :
    (r.hierarchy.upwards a).Pairwise fun b c =>
      r.distance a.key b.key ≤ r.distance a.key c.key := by
  refine List.pairwise_cons.2 ⟨?_, ?_⟩
  · intro b _
    exact (distance_le .here).trans (le_distance fun n _ => Nat.zero_le n)
  · cases hd : r.hierarchy.find? a with
    | none => simp [Hierarchy.ancestors, hd]
    | some d =>
      have hloop := Hierarchy.searches_ancestors hd
      rw [key_of_find? hd] at hloop
      exact pairwise_distance_of_searches hloop (List.append_nil _).symm (levelled_start hd)

section Search

variable {β : Type} {at? : String → Option β} {has : String → Prop}

theorem isSome_findSome?_upwards (hhas : ∀ k, (at? k).isSome = true ↔ has k) :
    ((r.hierarchy.upwards a).findSome? fun b => at? b.key).isSome = true
      ↔ ∃ k, ReflTransGen r.Extends a.key k ∧ has k := by
  rw [List.findSome?_isSome_iff]
  constructor
  · rintro ⟨b, hb, hsome⟩
    exact ⟨b.key, mem_keys_upwards.1 (List.mem_map_of_mem hb), (hhas _).1 hsome⟩
  · rintro ⟨k, hreached, hk⟩
    obtain ⟨b, hb, rfl⟩ := List.mem_map.1 (mem_keys_upwards.2 hreached)
    exact ⟨b, hb, (hhas _).2 hk⟩

/-- **The first answer on the way up is a nearest one.** -/
theorem nearest_of_findSome? (hhas : ∀ k, (at? k).isSome = true ↔ has k) {x : β}
    (h : ((r.hierarchy.upwards a).findSome? fun b => at? b.key) = some x) :
    ∃ k, at? k = some x ∧ r.Nearest a.key has k := by
  obtain ⟨passed, b, behind, hsplit, hb, hpassed⟩ := List.findSome?_eq_some_iff.1 h
  have hordered := r.pairwise_distance_upwards a
  have hreached {k : String} := mem_keys_upwards (r := r) (a := a) (k := k)
  rw [hsplit] at hordered hreached
  refine ⟨b.key, hb, hreached.1 (by simp), (hhas _).1 (by simp [hb]), ?_⟩
  intro other hother
  by_cases hway : ReflTransGen r.Extends a.key other
  · obtain ⟨c, hc, rfl⟩ := List.mem_map.1 (hreached.2 hway)
    rcases List.mem_append.1 hc with hbefore | hfrom
    · -- whoever was passed has no answer
      have hnone := hpassed c hbefore
      rw [← hhas, hnone] at hother
      cases hother
    · rcases List.mem_cons.1 hfrom with rfl | hbehind
      · exact le_rfl
      · exact (List.pairwise_cons.1 (List.pairwise_append.1 hordered).2.1).1 c hbehind
  · rw [distance_eq_top hway]
    exact le_top

end Search

/-! ## Declared methods -/

/-- The method that the class under a key declares itself, with that class. -/
def methodAt? (r : Registry) (method k : String) : Option (ClassDecl × MethodDecl) :=
  (r.classes.get? k).bind fun e => (e.ownMethod? method).map fun m => (e, m)

theorem methodAt?_eq_some_iff {method k : String} {e : ClassDecl} {m : MethodDecl} :
    r.methodAt? method k = some (e, m)
      ↔ r.classes.get? k = some e ∧ m ∈ e.methods.items ∧
        Symbol.caseless m.name = Symbol.caseless method := by
  have hown {e : ClassDecl} : e.ownMethod? method = some m
      ↔ m ∈ e.methods.items ∧ Symbol.caseless m.name = Symbol.caseless method :=
    Catalog.get?_eq_some_iff
  rw [methodAt?, Option.bind_eq_some_iff]
  constructor
  · rintro ⟨e', he, hm⟩
    obtain ⟨m', hm', heq⟩ := Option.map_eq_some_iff.1 hm
    obtain ⟨rfl, rfl⟩ := Prod.mk.inj heq
    exact ⟨he, hown.1 hm'⟩
  · rintro ⟨he, hm⟩
    exact ⟨e, he, Option.map_eq_some_iff.2 ⟨m, hown.2 hm, rfl⟩⟩

theorem isSome_methodAt?_iff {method : String} (k : String) :
    (r.methodAt? method k).isSome = true ↔ r.DeclaresMethod method k := by
  rw [Option.isSome_iff_exists, Prod.exists, DeclaresMethod]
  simp only [methodAt?_eq_some_iff]

theorem findMethod?_eq_findSome? (r : Registry) (a : ClassName) (method : String) :
    r.hierarchy.findMethod? a method
      = (r.hierarchy.upwards a).findSome? fun b => r.methodAt? method b.key := by
  rw [Hierarchy.findMethod?, Hierarchy.upwards, List.findSome?_cons]
  show (r.classes.get? a.key).bind _ = _
  unfold methodAt?
  cases hd : r.classes.get? a.key with
  | none => simp [Hierarchy.ancestors, show r.hierarchy.find? a = none from hd]
  | some d =>
    simp only [Option.bind_some]
    cases d.ownMethod? method with
    | none => rfl
    | some m => rfl

end Registry

/-! ## Configured entries -/

namespace Defaults

variable {d : Defaults} {method : String}

/-- The configured throw types of a method under a key. -/
def methodAt? (d : Defaults) (method k : String) : Option TypeSet :=
  (d.methods.get? (k, Symbol.caseless method)).map (·.types)

theorem methodAt?_eq_some_iff {k : String} {types : TypeSet} :
    d.methodAt? method k = some types
      ↔ ∃ entry ∈ d.methods.items,
          entry.owner = k ∧ entry.method = Symbol.caseless method ∧ entry.types = types := by
  rw [methodAt?, Option.map_eq_some_iff]
  refine exists_congr fun entry => ?_
  rw [Catalog.get?_eq_some_iff, MethodDefault.key, Prod.mk.injEq, and_assoc, and_assoc]

theorem isSome_methodAt?_iff (k : String) :
    (d.methodAt? method k).isSome = true ↔ d.Configures method k := by
  rw [Option.isSome_iff_exists, Configures]
  simp only [methodAt?_eq_some_iff]
  constructor
  · rintro ⟨types, entry, hentry, howner, hmethod, -⟩
    exact ⟨entry, hentry, howner, hmethod⟩
  · rintro ⟨entry, hentry, howner, hmethod⟩
    exact ⟨entry.types, entry, hentry, howner, hmethod, rfl⟩

theorem method?_eq_findSome? (d : Defaults) (H : Hierarchy) (a : ClassName) (method : String) :
    d.method? H a method = (H.upwards a).findSome? fun b => d.methodAt? method b.key := by
  have hown (owner : ClassName) : d.ownMethod? owner method = d.methodAt? method owner.key := rfl
  simp only [method?, Hierarchy.upwards, List.findSome?_cons, hown]
  cases d.methodAt? method a.key with
  | none => rfl
  | some types => rfl

end Defaults

/-! ## Both together -/

namespace ThrowModel

variable {M : ThrowModel} {a : ClassName} {method : String}

theorem method?_eq_none_iff :
    M.method? a method = none
      ↔ M.defaults.method? M.hierarchy a method = none ∧
        M.hierarchy.findMethod? a method = none := by
  unfold method?
  cases M.defaults.method? M.hierarchy a method <;> simp

theorem method?_of_configured {types : TypeSet}
    (h : M.defaults.method? M.hierarchy a method = some types) :
    M.method? a method = some (M.normalize types) := by
  rw [method?, h]

theorem method?_of_declared {e : ClassDecl} {m : MethodDecl}
    (hnone : M.defaults.method? M.hierarchy a method = none)
    (h : M.hierarchy.findMethod? a method = some (e, m)) :
    M.method? a method = some (M.normalize m.throwTypes) := by
  rw [method?, hnone, h]
  rfl

end ThrowModel

namespace Registry

variable {r : Registry} {d : Defaults} {a : ClassName} {method : String}

theorem isSome_findMethod?_iff :
    (r.hierarchy.findMethod? a method).isSome = true
      ↔ ∃ k, ReflTransGen r.Extends a.key k ∧ r.DeclaresMethod method k := by
  rw [findMethod?_eq_findSome?, isSome_findSome?_upwards isSome_methodAt?_iff]

/-- Only a class that is known has methods. -/
theorem isSome_class?_of_declaresMethod {k : String} (hreached : ReflTransGen r.Extends a.key k)
    (h : r.DeclaresMethod method k) : (r.class? a).isSome = true := by
  rcases ReflTransGen.cases_head hreached with rfl | ⟨above, ⟨d, hd, -⟩, -⟩
  · obtain ⟨e, -, he, -⟩ := h
    exact Option.isSome_iff_exists.2 ⟨e, he⟩
  · exact Option.isSome_iff_exists.2 ⟨d, hd⟩

theorem nearest_of_findMethod? {e : ClassDecl} {m : MethodDecl}
    (h : r.hierarchy.findMethod? a method = some (e, m)) :
    r.class? e.name = some e ∧ m ∈ e.methods.items ∧
      Symbol.caseless m.name = Symbol.caseless method ∧
      r.Nearest a.key (r.DeclaresMethod method) e.name.key := by
  rw [findMethod?_eq_findSome?] at h
  obtain ⟨k, hk, hnearest⟩ := nearest_of_findSome? isSome_methodAt?_iff h
  obtain ⟨he, hm, hname⟩ := methodAt?_eq_some_iff.1 hk
  have hkey : e.key = k := Catalog.key_of_get? he
  obtain rfl : e.name.key = k := hkey
  exact ⟨he, hm, hname, hnearest⟩

theorem isSome_configured_iff :
    (d.method? r.hierarchy a method).isSome = true
      ↔ ∃ k, ReflTransGen r.Extends a.key k ∧ d.Configures method k := by
  rw [Defaults.method?_eq_findSome?, isSome_findSome?_upwards Defaults.isSome_methodAt?_iff]

theorem nearest_of_configured {types : TypeSet} (h : d.method? r.hierarchy a method = some types) :
    ∃ entry ∈ d.methods.items, entry.method = Symbol.caseless method ∧ entry.types = types ∧
      r.Nearest a.key (d.Configures method) entry.owner := by
  rw [Defaults.method?_eq_findSome?] at h
  obtain ⟨k, hk, hnearest⟩ := nearest_of_findSome? Defaults.isSome_methodAt?_iff h
  obtain ⟨entry, hentry, rfl, hmethod, htypes⟩ := Defaults.methodAt?_eq_some_iff.1 hk
  exact ⟨entry, hentry, hmethod, htypes, hnearest⟩

/-- **The nearest declaration wins, and a configured entry before any.** A method of a class is
    found exactly if the class is known and it or a class above it declares the method, and then in
    a class that is nearest among those. An entry is found exactly if there is one under the key of
    the name, or of one above it that may be declared or not, and then one that is nearest. There
    are no throw types exactly if there is neither. If there is an entry anywhere on the way up, the
    throw types are those of a nearest entry, whatever is declared; otherwise they are the annotated
    ones of the method that is found. -/
theorem nearest_declaration_wins (r : Registry) (d : Defaults) (refinements : List Refinement)
    (a : ClassName) (method : String) :
    ((r.hierarchy.findMethod? a method).isSome = true
      ↔ (r.class? a).isSome = true ∧
        ∃ k, ReflTransGen r.Extends a.key k ∧ r.DeclaresMethod method k) ∧
    (∀ e m, r.hierarchy.findMethod? a method = some (e, m) →
      r.class? e.name = some e ∧ m ∈ e.methods.items ∧
        Symbol.caseless m.name = Symbol.caseless method ∧
        r.Nearest a.key (r.DeclaresMethod method) e.name.key) ∧
    ((d.method? r.hierarchy a method).isSome = true
      ↔ ∃ k, ReflTransGen r.Extends a.key k ∧ d.Configures method k) ∧
    (∀ types, d.method? r.hierarchy a method = some types →
      ∃ entry ∈ d.methods.items, entry.method = Symbol.caseless method ∧ entry.types = types ∧
        r.Nearest a.key (d.Configures method) entry.owner) ∧
    ((ThrowModel.mk r.hierarchy d refinements).method? a method = none
      ↔ (¬ ∃ k, ReflTransGen r.Extends a.key k ∧ d.Configures method k) ∧
        ¬ ∃ k, ReflTransGen r.Extends a.key k ∧ r.DeclaresMethod method k) ∧
    (∀ k, ReflTransGen r.Extends a.key k → d.Configures method k →
      ∃ entry ∈ d.methods.items, entry.method = Symbol.caseless method ∧
        r.Nearest a.key (d.Configures method) entry.owner ∧
        (ThrowModel.mk r.hierarchy d refinements).method? a method
          = some ((ThrowModel.mk r.hierarchy d refinements).normalize entry.types)) ∧
    (∀ e m, d.method? r.hierarchy a method = none →
      r.hierarchy.findMethod? a method = some (e, m) →
        (ThrowModel.mk r.hierarchy d refinements).method? a method
          = some ((ThrowModel.mk r.hierarchy d refinements).normalize m.throwTypes)) := by
  refine ⟨?_, ?_, isSome_configured_iff, ?_, ?_, ?_, ?_⟩
  · rw [isSome_findMethod?_iff]
    refine ⟨?_, And.right⟩
    rintro ⟨k, hreached, hk⟩
    exact ⟨isSome_class?_of_declaresMethod hreached hk, k, hreached, hk⟩
  · intro e m hfound
    exact nearest_of_findMethod? hfound
  · intro types hfound
    exact nearest_of_configured hfound
  · rw [ThrowModel.method?_eq_none_iff, ← isSome_configured_iff, ← isSome_findMethod?_iff,
      Option.not_isSome_iff_eq_none, Option.not_isSome_iff_eq_none]
  · intro k hreached hk
    obtain ⟨types, hfound⟩ :=
      Option.isSome_iff_exists.1 (isSome_configured_iff.2 ⟨k, hreached, hk⟩)
    obtain ⟨entry, hentry, hmethod, rfl, hnearest⟩ := nearest_of_configured hfound
    exact ⟨entry, hentry, hmethod, hnearest, ThrowModel.method?_of_configured hfound⟩
  · intro e m hnone hfound
    exact ThrowModel.method?_of_declared hnone hfound

/-- Three classes in a circle. The first also has an interface that declares the method of the last
    and is nearer to it; what the interface extends is not declared. -/
def streams : Registry :=
  [((ClassDecl.bare ⟨"Cursor"⟩ .concrete).extending ⟨"Reader"⟩).implementing ⟨"Closeable"⟩,
    (ClassDecl.bare ⟨"Reader"⟩ .concrete).extending ⟨"Stream"⟩,
    ((ClassDecl.bare ⟨"Stream"⟩ .concrete).extending ⟨"Cursor"⟩).declaring
      { name := "Close", throws := some (.ofTexts ["StreamError"]) },
    ((ClassDecl.bare ⟨"Closeable"⟩ .interface).extending ⟨"Resource"⟩).declaring
      { name := "close", throws := some (.ofTexts ["CloseError"]), isAbstract := true }].foldl
    addClass .empty

/-- An entry for the name that is not declared. -/
def resourceDefaults : Defaults :=
  ⟨.ofList [⟨"resource", "close", .ofTexts ["ResourceError"]⟩], ∅⟩

/-- The interface is nearer than the last class of the circle, and the entry, although it is farther
    away than the interface, is what counts. From the middle of the circle the last class is the
    nearest; without the entry, its annotation counts. -/
theorem nearest_declaration_wins_streams :
    streams.Nearest "cursor" (streams.DeclaresMethod "CLOSE") "closeable" ∧
    streams.Nearest "reader" (streams.DeclaresMethod "close") "stream" ∧
    (∃ entry ∈ resourceDefaults.methods.items,
      streams.Nearest "cursor" (resourceDefaults.Configures "CLOSE") entry.owner ∧
      (ThrowModel.mk streams.hierarchy resourceDefaults []).method? ⟨"Cursor"⟩ "CLOSE"
        = some ((ThrowModel.mk streams.hierarchy resourceDefaults []).normalize entry.types)) ∧
    ((ThrowModel.mk streams.hierarchy resourceDefaults []).method? ⟨"cursor"⟩ "Close").map
        TypeSet.toList = some [⟨"ResourceError"⟩] ∧
    ((ThrowModel.mk streams.hierarchy ⟨∅, ∅⟩ []).method? ⟨"Reader"⟩ "close").map TypeSet.toList
      = some [⟨"StreamError"⟩] ∧
    ¬ ∃ k, ReflTransGen streams.Extends "cursor" k ∧ streams.DeclaresMethod "open" k := by
  obtain ⟨-, hcursor, -, -, -, hentry, -⟩ :=
    nearest_declaration_wins streams resourceDefaults [] ⟨"Cursor"⟩ "CLOSE"
  obtain ⟨-, hreader, -⟩ := nearest_declaration_wins streams ⟨∅, ∅⟩ [] ⟨"Reader"⟩ "close"
  obtain ⟨-, -, -, -, hnone, -⟩ :=
    nearest_declaration_wins streams resourceDefaults [] ⟨"Cursor"⟩ "open"
  have hinterface : (streams.hierarchy.findMethod? ⟨"Cursor"⟩ "CLOSE").map (·.1.name)
      = some ⟨"Closeable"⟩ := by
    decide +kernel
  have hlast : (streams.hierarchy.findMethod? ⟨"Reader"⟩ "close").map (·.1.name)
      = some ⟨"Stream"⟩ := by
    decide +kernel
  have hbelow : streams.hierarchy.isSameOrSubclass ⟨"Cursor"⟩ ⟨"Resource"⟩ = true := by
    decide +kernel
  obtain ⟨⟨e, m⟩, he, hename⟩ := Option.map_eq_some_iff.1 hinterface
  obtain ⟨⟨f, n⟩, hf, hfname⟩ := Option.map_eq_some_iff.1 hlast
  refine ⟨?_, ?_, ?_, by decide +kernel, by decide +kernel, (hnone.1 (by decide +kernel)).2⟩
  · have hnearest := (hcursor e m he).2.2.2
    rwa [hename] at hnearest
  · have hnearest := (hreader f n hf).2.2.2
    rwa [hfname] at hnearest
  · obtain ⟨entry, hmem, -, hnearest, hmethod⟩ :=
      hentry _ (isSameOrSubclass_iff.1 hbelow)
        ⟨_, List.mem_singleton.2 rfl, rfl, by decide +kernel⟩
    exact ⟨entry, hmem, hnearest, hmethod⟩

end Registry

end ExceptionFlow
