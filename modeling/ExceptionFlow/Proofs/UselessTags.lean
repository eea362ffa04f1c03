import ExceptionFlow.Proofs.Depth
import ExceptionFlow.Proofs.Trimming

set_option autoImplicit false

/-! # Which tags are useless

The walk over the tags of a function compares each with the useful ones before it, in an order in
which supertypes come first. In a registry without circles its outcome can be said of the tags as
they are written (`uselessTypes_exact`): a tag is useless if it says nothing and some tag names a
supertype, or if an earlier one for its class is useful by itself (`UsefulByItself`).

The walk only knows the useful tags. That this makes no difference is due to two facts. A supertype
comes strictly before, since it is less deep. And a tag that was passed over leaves a useful one at
or above its type behind (`exists_useful_above`), so that no supertype is forgotten. -/

namespace ExceptionFlow.TagFinding

open Relation (TransGen ReflTransGen)

/-! ## The order of the walk -/

section Order

variable (H : Hierarchy)

/-- The order of tags in the walk and in the report: by the depth of the type, then by its key, then
    by the position at which they are written. -/
def Precedes (a b : ThrowsTag × Nat) : Prop :=
  H.depth a.1.type < H.depth b.1.type ∨
    H.depth a.1.type = H.depth b.1.type ∧
      (a.1.type.key < b.1.type.key ∨ a.1.type.key = b.1.type.key ∧ a.2 < b.2)

variable {H}

theorem Precedes.asymm {a b : ThrowsTag × Nat} (hab : Precedes H a b) : ¬ Precedes H b a := by
  intro hba
  rcases hab with hab | ⟨hdepth, hab⟩
  · rcases hba with hba | ⟨hdepth, -⟩
    · omega
    · omega
  · rcases hba with hba | ⟨-, hba⟩
    · omega
    · rcases hab with hab | ⟨hkey, hab⟩
      · rcases hba with hba | ⟨hkey, -⟩
        · exact lt_asymm hab hba
        · exact hab.ne hkey.symm
      · rcases hba with hba | ⟨-, hba⟩
        · exact hba.ne hkey.symm
        · omega

theorem mem_sortedTags_iff {tags : List ThrowsTag} {tag : ThrowsTag × Nat} :
    tag ∈ sortedTags H tags ↔ tags[tag.2]? = some tag.1 :=
  mem_sortedTags.trans List.mem_zipIdx_iff_getElem?

theorem pairwise_sortedTags (tags : List ThrowsTag) :
    (sortedTags H tags).Pairwise (Precedes H) := by
  have hstable := H.pairwise_sortSupertypesFirst (fun tag => tag.1.type) (pairwise_zipIdx tags)
  refine hstable.imp ?_
  rintro a b ⟨hle, hequal⟩
  rw [H.mayPrecede_iff] at hle hequal
  rcases hle with hdepth | ⟨hdepth, hkey⟩
  · exact .inl hdepth
  · refine .inr ⟨hdepth, ?_⟩
    rcases hkey.lt_or_eq with hlt | hkey
    · exact .inl hlt
    · exact .inr ⟨hkey, hequal (.inr ⟨hdepth.symm, hkey.ge⟩)⟩

end Order

/-! ## The walk as a fixed point -/

section Walk

variable {H : Hierarchy}

theorem isUseless_iff {useful : List ClassName} {tag : ThrowsTag} :
    isUseless H useful tag = true
      ↔ ∃ seen ∈ useful, H.isSameClass seen tag.type = true ∨
          tag.isDescribed = false ∧ H.isSubclass tag.type seen = true := by
  simp only [isUseless, Bool.or_eq_true, Bool.and_eq_true, List.any_eq_true, Bool.not_eq_true']
  constructor
  · rintro (⟨seen, hseen, hsame⟩ | ⟨hsilent, seen, hseen, hsub⟩)
    · exact ⟨seen, hseen, .inl hsame⟩
    · exact ⟨seen, hseen, .inr ⟨hsilent, hsub⟩⟩
  · rintro ⟨seen, hseen, hsame | ⟨hsilent, hsub⟩⟩
    · exact .inl ⟨seen, hseen, hsame⟩
    · exact .inr ⟨hsilent, seen, hseen, hsub⟩

theorem usefulAmong_append (useful : List ClassName) (before after : List (ThrowsTag × Nat)) :
    usefulAmong H useful (before ++ after)
      = usefulAmong H useful before ++
          usefulAmong H (useful ++ (usefulAmong H useful before).map fun tag => tag.1.type)
            after := by
  induction before generalizing useful with
  | nil => simp [usefulAmong]
  | cons tag rest ih =>
    rw [List.cons_append, usefulAmong, usefulAmong]
    split
    · exact ih useful
    · rw [ih, List.cons_append, List.map_cons, List.append_assoc, List.singleton_append]

/-- Whether the walk finds a tag useful is decided by the useful ones that it has met so far. -/
theorem mem_usefulAmong_append_cons {useful : List ClassName} {tag : ThrowsTag × Nat}
    {before after : List (ThrowsTag × Nat)} (hbefore : tag ∉ before) (hafter : tag ∉ after) :
    tag ∈ usefulAmong H useful (before ++ tag :: after)
      ↔ ¬ isUseless H (useful ++ (usefulAmong H useful before).map fun seen => seen.1.type) tag.1
          = true := by
  have hnotBefore : tag ∉ usefulAmong H useful before := fun hmem =>
    hbefore ((usefulAmong_sublist _ _).mem hmem)
  have hnotAfter (met : List ClassName) : tag ∉ usefulAmong H met after := fun hmem =>
    hafter ((usefulAmong_sublist _ _).mem hmem)
  rw [usefulAmong_append, List.mem_append, or_iff_right hnotBefore, usefulAmong]
  split
  · rename_i huseless
    simp [huseless, hnotAfter]
  · rename_i huseless
    simp [huseless]

/-- **A tag is useful exactly if no useful one before it makes it useless.** -/
theorem mem_usefulAmong_iff {tags : List (ThrowsTag × Nat)} (hsorted : tags.Pairwise (Precedes H))
    {tag : ThrowsTag × Nat} (htag : tag ∈ tags) :
    tag ∈ usefulAmong H [] tags
      ↔ ¬ ∃ seen ∈ usefulAmong H [] tags, Precedes H seen tag ∧
          (H.isSameClass seen.1.type tag.1.type = true ∨
            tag.1.isDescribed = false ∧ H.isSubclass tag.1.type seen.1.type = true) := by
  obtain ⟨before, after, rfl⟩ := List.append_of_mem htag
  obtain ⟨-, htail, hcross⟩ := List.pairwise_append.1 hsorted
  have hahead : ∀ other ∈ before, Precedes H other tag := fun other hother =>
    hcross other hother tag List.mem_cons_self
  have hbehind : ∀ other ∈ tag :: after, ¬ Precedes H other tag := by
    intro other hother hprecedes
    rcases List.mem_cons.1 hother with rfl | hafter
    · exact hprecedes.asymm hprecedes
    · exact hprecedes.asymm ((List.pairwise_cons.1 htail).1 other hafter)
  have hself : ¬ Precedes H tag tag := hbehind tag List.mem_cons_self
  have hbefore : tag ∉ before := fun hmem => hself (hahead tag hmem)
  have hafter : tag ∉ after := fun hmem => hself ((List.pairwise_cons.1 htail).1 tag hmem)
  rw [mem_usefulAmong_append_cons hbefore hafter, isUseless_iff, List.nil_append]
  refine not_congr ?_
  -- the useful tags that precede the tag are those that the walk has met when it comes to it
  rw [usefulAmong_append]
  constructor
  · rintro ⟨type, htype, hmakes⟩
    obtain ⟨seen, hseen, rfl⟩ := List.mem_map.1 htype
    have hprecedes := hahead seen ((usefulAmong_sublist _ _).mem hseen)
    exact ⟨seen, List.mem_append_left _ hseen, hprecedes, hmakes⟩
  · rintro ⟨seen, hseen, hprecedes, hmakes⟩
    rcases List.mem_append.1 hseen with hmet | hlater
    · exact ⟨seen.1.type, List.mem_map.2 ⟨seen, hmet, rfl⟩, hmakes⟩
    · exact absurd hprecedes (hbehind seen ((usefulAmong_sublist _ _).mem hlater))

end Walk

/-! ## Without circles -/

section Registry

variable {r : Registry} {tags : List ThrowsTag} {tag seen : ThrowsTag × Nat}

variable (r tags) in
/-- A tag that only a repetition can make useless: it says something, or no tag names a supertype of
    its type. -/
def UsefulByItself (tag : ThrowsTag) : Prop :=
  tag.isDescribed = true ∨ ¬ ∃ other ∈ tags, TransGen r.Extends tag.type.key other.type.key

/-- A tag for a supertype comes before. -/
theorem precedes_of_above (hacyclic : r.Acyclic)
    (h : TransGen r.Extends tag.1.type.key seen.1.type.key) : Precedes r.hierarchy seen tag :=
  .inl (hacyclic.depth_lt h)

/-- Tags for one class come as they are written. -/
theorem precedes_iff_of_key_eq (h : seen.1.type.key = tag.1.type.key) :
    Precedes r.hierarchy seen tag ↔ seen.2 < tag.2 := by
  simp [Precedes, Registry.depth_congr h, h]

/-- If some tag names a supertype, then a useful one does. -/
theorem exists_useful_supertype {type : ClassName}
    (h : ∃ other ∈ tags, TransGen r.Extends type.key other.type.key) :
    ∃ seen ∈ usefulAmong r.hierarchy [] (sortedTags r.hierarchy tags),
      TransGen r.Extends type.key seen.1.type.key := by
  obtain ⟨other, hother, habove⟩ := h
  obtain ⟨i, hi⟩ := List.mem_iff_getElem?.1 hother
  have hsorted : (other, i) ∈ sortedTags r.hierarchy tags := mem_sortedTags_iff.2 hi
  obtain ⟨kept, hkept, hbelow⟩ := exists_useful_above [] hsorted
  obtain ⟨seen, hseen, rfl⟩ := List.mem_map.1 hkept
  exact ⟨seen, hseen, habove.trans_left (Registry.isSameOrSubclass_iff.1 hbelow)⟩

/-- In the order of the walk, a tag is useless if it says nothing and some tag names a supertype, or
    if an earlier useful tag names its class. -/
theorem not_mem_usefulAmong_iff (hacyclic : r.Acyclic) (htag : tag ∈ sortedTags r.hierarchy tags) :
    tag ∉ usefulAmong r.hierarchy [] (sortedTags r.hierarchy tags)
      ↔ ¬ UsefulByItself r tags tag.1 ∨
        ∃ seen ∈ usefulAmong r.hierarchy [] (sortedTags r.hierarchy tags),
          seen.1.type.key = tag.1.type.key ∧ seen.2 < tag.2 := by
  rw [mem_usefulAmong_iff (pairwise_sortedTags tags) htag, not_not]
  simp only [UsefulByItself, not_or, not_not, Bool.not_eq_true]
  constructor
  · rintro ⟨seen, hseen, hprecedes, hsame | ⟨hsilent, hsub⟩⟩
    · have hkey := Registry.isSameClass_iff.1 hsame
      exact .inr ⟨seen, hseen, hkey, (precedes_iff_of_key_eq hkey).1 hprecedes⟩
    · have hwritten := mem_sortedTags_iff.1 ((usefulAmong_sublist _ _).mem hseen)
      exact .inl ⟨hsilent, seen.1, List.mem_of_getElem? hwritten,
        (Registry.isSubclass_iff.1 hsub).2⟩
  · rintro (⟨hsilent, habove⟩ | ⟨seen, hseen, hkey, hlt⟩)
    · obtain ⟨seen, hseen, habove⟩ := exists_useful_supertype habove
      have hne : tag.1.type.key ≠ seen.1.type.key := by
        intro hkey
        rw [hkey] at habove
        exact hacyclic _ habove
      exact ⟨seen, hseen, precedes_of_above hacyclic habove,
        .inr ⟨hsilent, Registry.isSubclass_iff.2 ⟨hne, habove⟩⟩⟩
    · exact ⟨seen, hseen, (precedes_iff_of_key_eq hkey).2 hlt,
        .inl (Registry.isSameClass_iff.2 hkey)⟩

/-- Of the tags for a class, one is useful if one is useful by itself. -/
theorem exists_earlier_useful_iff (hacyclic : r.Acyclic) {key : String} {bound : Nat} :
    (∃ seen ∈ usefulAmong r.hierarchy [] (sortedTags r.hierarchy tags),
        seen.1.type.key = key ∧ seen.2 < bound)
      ↔ ∃ earlier j, j < bound ∧ tags[j]? = some earlier ∧ earlier.type.key = key ∧
          UsefulByItself r tags earlier := by
  constructor
  · rintro ⟨⟨seen, j⟩, hseen, hkey, hlt⟩
    have hsorted := (usefulAmong_sublist _ _).mem hseen
    refine ⟨seen, j, hlt, mem_sortedTags_iff.1 hsorted, hkey, ?_⟩
    by_contra hnot
    exact (not_mem_usefulAmong_iff hacyclic hsorted).2 (.inl hnot) hseen
  · rintro ⟨earlier, j, hlt, hwritten, hkey, huseful⟩
    have hsorted : (earlier, j) ∈ sortedTags r.hierarchy tags := mem_sortedTags_iff.2 hwritten
    by_cases hmem : (earlier, j) ∈ usefulAmong r.hierarchy [] (sortedTags r.hierarchy tags)
    · exact ⟨(earlier, j), hmem, hkey, hlt⟩
    · -- only a repetition can have made it useless, and the tag that it repeats comes before it
      rcases (not_mem_usefulAmong_iff hacyclic hsorted).1 hmem with hnot | ⟨seen, hseen, hsame, hj⟩
      · exact absurd huseful hnot
      · exact ⟨seen, hseen, hsame.trans hkey, hj.trans hlt⟩

/-- **Which tags are useless.** In a registry without circles, the tag at a position is found
    useless exactly if it has no description and some tag names a strict supertype of its type, or
    if an earlier one for the same class is useful by itself. The report lists these tags, each of
    them once, by the depths of their types, then by the keys, then by the positions. -/
theorem uselessTypes_exact (r : Registry) (hacyclic : r.Acyclic) (tags : List ThrowsTag) :
    uselessTypes r.hierarchy tags
      = (uselessTags r.hierarchy tags).map (fun tag => tag.1.type) ∧
    (∀ tag i, (tag, i) ∈ uselessTags r.hierarchy tags
      ↔ tags[i]? = some tag ∧
        (tag.isDescribed = false ∧
            (∃ other ∈ tags, TransGen r.Extends tag.type.key other.type.key) ∨
          ∃ earlier j, j < i ∧ tags[j]? = some earlier ∧ earlier.type.key = tag.type.key ∧
            UsefulByItself r tags earlier)) ∧
    (uselessTags r.hierarchy tags).Nodup ∧
    (uselessTags r.hierarchy tags).Pairwise (Precedes r.hierarchy) := by
  refine ⟨uselessTypes_eq tags, ?_, (nodup_sortedTags tags).filter _,
    (pairwise_sortedTags tags).filter _⟩
  intro tag i
  rw [uselessTags, List.mem_filter, decide_eq_true_iff, mem_sortedTags_iff]
  refine and_congr_right fun hwritten => ?_
  rw [not_mem_usefulAmong_iff hacyclic (mem_sortedTags_iff.2 hwritten),
    exists_earlier_useful_iff hacyclic]
  simp only [UsefulByItself, not_or, not_not, Bool.not_eq_true]

/-- Three classes, each but the first below the one before it. -/
def ladder : Registry :=
  [ClassDecl.bare ⟨"Failure"⟩ .concrete,
    (ClassDecl.bare ⟨"Timeout"⟩ .concrete).extending ⟨"Failure"⟩,
    (ClassDecl.bare ⟨"Stall"⟩ .concrete).extending ⟨"Timeout"⟩].foldl Registry.addClass .empty

theorem ladder_acyclic : ladder.Acyclic :=
  Registry.acyclic_of_rank ["failure", "timeout", "stall"].idxOf (by decide +kernel)

/-- The first tag is useless although the next one for its class is useful; the last two repeat
    useful ones in other spellings. -/
def ladderTags : List ThrowsTag :=
  [⟨"Stall", some " "⟩, ⟨"Timeout", some "when idle"⟩, ⟨"Stall", some "after a minute"⟩,
    ⟨"\\Failure", none⟩, ⟨"TIMEOUT", none⟩, ⟨"failure", some "again"⟩]

/-- A blank description says nothing, and a described repetition is a repetition. -/
theorem uselessTypes_exact_ladder :
    ladder.Acyclic ∧
    uselessTypes ladder.hierarchy ladderTags = [⟨"failure"⟩, ⟨"TIMEOUT"⟩, ⟨"Stall"⟩] ∧
    (⟨"Stall", some " "⟩, 0) ∈ uselessTags ladder.hierarchy ladderTags ∧
    (⟨"failure", some "again"⟩, 5) ∈ uselessTags ladder.hierarchy ladderTags ∧
    (uselessTags ladder.hierarchy ladderTags).Pairwise (Precedes ladder.hierarchy) := by
  obtain ⟨-, hmem, -, hordered⟩ := uselessTypes_exact ladder ladder_acyclic ladderTags
  have huseless : uselessTypes ladder.hierarchy ladderTags
      = [⟨"failure"⟩, ⟨"TIMEOUT"⟩, ⟨"Stall"⟩] := by
    rw [uselessTypes, Hierarchy.sortSupertypesFirst_eq_foldr]
    decide +kernel
  have habove : TransGen ladder.Extends (ClassName.key ⟨"Stall"⟩) (ClassName.key ⟨"Failure"⟩) :=
    (Registry.isSubclass_iff.1 (by decide +kernel)).2
  have hroot : UsefulByItself ladder ladderTags ⟨"\\Failure", none⟩ := by
    refine .inr ?_
    rintro ⟨other, -, hpath⟩
    obtain ⟨k, ⟨d, hd, parent, hparent, -⟩, -⟩ := TransGen.head'_iff.1 hpath
    obtain rfl := Option.some.inj hd
    cases hparent
  refine ⟨ladder_acyclic, huseless, (hmem _ _).2 ⟨rfl, .inl ⟨?_, ⟨"\\Failure", none⟩, ?_, habove⟩⟩,
    (hmem _ _).2 ⟨rfl, .inr ⟨⟨"\\Failure", none⟩, 3, by omega, rfl, ?_, hroot⟩⟩, hordered⟩
  · decide +kernel
  · decide +kernel
  · decide +kernel

end Registry

end ExceptionFlow.TagFinding
