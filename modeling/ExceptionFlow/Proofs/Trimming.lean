import ExceptionFlow.Proofs.Covering
import ExceptionFlow.Proofs.Refusal
import ExceptionFlow.Proofs.Reports
import ExceptionFlow.Proofs.Subtyping
import ExceptionFlow.Proofs.SupertypesFirst

set_option autoImplicit false

/-! # Deleting useless tags

A function can do without its useless tags. What is left of its contract (`Contract.trimmed`) covers
the same types, so that nothing comes to escape in a unit and nothing ceases to
(`Checker.trimming_keeps_contracts`), and no tag of it is useless in turn.

A tag may be useless because of one that comes before it in the sort, but never because of a tag
that is useless itself: the walk compares with useful tags only. So every tag is at or below a
useful one (`exists_useful_above`), whatever the order of the sort has to do with subtyping. That
one round is enough is a matter of the sort being stable: the tags that are left are walked in the
order in which they were found useful. -/

namespace ExceptionFlow

namespace TagFinding

variable (H : Hierarchy)

/-! ## The useful tags -/

/-- The useful ones among tags that are told apart by their positions, given the useful types before
    them. -/
def usefulAmong (useful : List ClassName) : List (ThrowsTag × Nat) → List (ThrowsTag × Nat)
  | [] => []
  | tag :: rest =>
    if isUseless H useful tag.1 then usefulAmong useful rest
    else tag :: usefulAmong (useful ++ [tag.1.type]) rest

/-- Tags with their positions, supertypes first. -/
def sortedTags (tags : List ThrowsTag) : List (ThrowsTag × Nat) :=
  H.sortSupertypesFirst (fun tag => tag.1.type) tags.zipIdx

/-- The tags that are not useless, as they are written. -/
def usefulTags (tags : List ThrowsTag) : List ThrowsTag :=
  (tags.zipIdx.filter fun tag => tag ∈ usefulAmong H [] (sortedTags H tags)).map Prod.fst

/-- The tags that are found useless, with the positions at which they are written. -/
def uselessTags (tags : List ThrowsTag) : List (ThrowsTag × Nat) :=
  (sortedTags H tags).filter fun tag => tag ∉ usefulAmong H [] (sortedTags H tags)

variable {H}

theorem usefulAmong_sublist (useful : List ClassName) (tags : List (ThrowsTag × Nat)) :
    (usefulAmong H useful tags).Sublist tags := by
  induction tags generalizing useful with
  | nil => exact .slnil
  | cons tag rest ih =>
    rw [usefulAmong]
    split
    · exact (ih useful).cons tag
    · exact (ih _).cons_cons tag

/-- The walk over tags reports those that it does not find useful. -/
theorem uselessAmong_map_fst {tags : List (ThrowsTag × Nat)} (h : tags.Nodup)
    (useful : List ClassName) :
    uselessAmong H useful (tags.map Prod.fst)
      = (tags.filter fun tag => tag ∉ usefulAmong H useful tags).map fun tag => tag.1.type := by
  induction tags generalizing useful with
  | nil => rfl
  | cons tag rest ih =>
    obtain ⟨hfresh, hrest⟩ := List.nodup_cons.1 h
    rw [List.map_cons, uselessAmong, usefulAmong]
    split
    · have hnot : tag ∉ usefulAmong H useful rest := fun hmem =>
        hfresh ((usefulAmong_sublist useful rest).mem hmem)
      rw [ih hrest, List.filter_cons_of_pos (by simpa using hnot), List.map_cons]
    · have hsame : (rest.filter fun other =>
            other ∉ tag :: usefulAmong H (useful ++ [tag.1.type]) rest)
          = rest.filter fun other => other ∉ usefulAmong H (useful ++ [tag.1.type]) rest :=
        List.filter_congr fun other hother =>
          decide_eq_decide.2 (not_congr (mem_cons_iff_of_not_mem hfresh hother))
      rw [ih hrest, List.filter_cons_of_neg (by simp), hsame]

/-- A walk over the useful tags alone finds all of them useful again. -/
theorem uselessAmong_usefulAmong (useful : List ClassName) (tags : List (ThrowsTag × Nat)) :
    uselessAmong H useful ((usefulAmong H useful tags).map Prod.fst) = [] := by
  induction tags generalizing useful with
  | nil => rfl
  | cons tag rest ih =>
    rw [usefulAmong]
    split
    · exact ih useful
    · rename_i huseful
      rw [List.map_cons, uselessAmong, if_neg huseful]
      exact ih _

theorem nodup_sortedTags (tags : List ThrowsTag) : (sortedTags H tags).Nodup :=
  (H.sortSupertypesFirst_perm _ _).nodup_iff.2 (nodup_zipIdx tags)

theorem mem_sortedTags {tags : List ThrowsTag} {tag : ThrowsTag × Nat} :
    tag ∈ sortedTags H tags ↔ tag ∈ tags.zipIdx :=
  (H.sortSupertypesFirst_perm _ _).mem_iff

/-- The tags that are reported as useless are those that are not useful, supertypes first. -/
theorem uselessTypes_eq (tags : List ThrowsTag) :
    uselessTypes H tags = (uselessTags H tags).map fun tag => tag.1.type := by
  have hsorted : H.sortSupertypesFirst ThrowsTag.type tags = (sortedTags H tags).map Prod.fst := by
    rw [sortedTags, H.map_sortSupertypesFirst ThrowsTag.type Prod.fst, List.zipIdx_map_fst]
  rw [uselessTypes, hsorted, uselessAmong_map_fst (nodup_sortedTags tags), uselessTags]

theorem mem_usefulTags {tags : List ThrowsTag} {tag : ThrowsTag} :
    tag ∈ usefulTags H tags ↔ ∃ i, (tag, i) ∈ usefulAmong H [] (sortedTags H tags) := by
  rw [usefulTags, List.mem_map]
  constructor
  · rintro ⟨⟨tag, i⟩, hmem, rfl⟩
    exact ⟨i, of_decide_eq_true (List.mem_filter.1 hmem).2⟩
  · rintro ⟨i, hmem⟩
    have hwritten := mem_sortedTags.1 ((usefulAmong_sublist _ _).mem hmem)
    exact ⟨(tag, i), List.mem_filter.2 ⟨hwritten, decide_eq_true hmem⟩, rfl⟩

theorem usefulTags_sublist (tags : List ThrowsTag) : (usefulTags H tags).Sublist tags := by
  have hsub := (@List.filter_sublist _ (fun tag => tag ∈ usefulAmong H [] (sortedTags H tags))
    tags.zipIdx).map Prod.fst
  rwa [List.zipIdx_map_fst] at hsub

/-- **One round is enough.** Among the useful tags alone, none is useless. -/
theorem uselessTypes_usefulTags (tags : List ThrowsTag) :
    uselessTypes H (usefulTags H tags) = [] := by
  have hkept : ((sortedTags H tags).filter fun tag => tag ∈ usefulAmong H [] (sortedTags H tags))
      = usefulAmong H [] (sortedTags H tags) :=
    filter_mem_of_sublist (usefulAmong_sublist _ _) (nodup_sortedTags tags)
  have hwalk : H.sortSupertypesFirst ThrowsTag.type (usefulTags H tags)
      = (usefulAmong H [] (sortedTags H tags)).map Prod.fst := by
    rw [usefulTags, ← H.map_sortSupertypesFirst ThrowsTag.type, H.sortSupertypesFirst_filter]
    exact congrArg _ hkept
  rw [uselessTypes, hwalk, uselessAmong_usefulAmong]

/-! ## What the useful tags cover -/

section Registry

variable {r : Registry}

theorem isSameOrSubclass_of_isUseless {useful : List ClassName} {tag : ThrowsTag}
    (h : isUseless r.hierarchy useful tag = true) :
    ∃ seen ∈ useful, r.hierarchy.isSameOrSubclass tag.type seen = true := by
  rw [isUseless, Bool.or_eq_true, Bool.and_eq_true, List.any_eq_true, List.any_eq_true] at h
  rcases h with ⟨seen, hseen, hsame⟩ | ⟨-, seen, hseen, hsub⟩
  · rw [Registry.isSameClass_iff] at hsame
    refine ⟨seen, hseen, ?_⟩
    rw [Hierarchy.isSameOrSubclass, Registry.isSameClass_iff.2 hsame.symm, Bool.true_or]
  · refine ⟨seen, hseen, ?_⟩
    rw [Hierarchy.isSameOrSubclass, hsub, Bool.or_true]

/-- Every tag of a walk is at or below a useful one. -/
theorem exists_useful_above (useful : List ClassName) {tags : List (ThrowsTag × Nat)}
    {tag : ThrowsTag × Nat} (h : tag ∈ tags) :
    ∃ seen ∈ useful ++ (usefulAmong r.hierarchy useful tags).map (fun tag => tag.1.type),
      r.hierarchy.isSameOrSubclass tag.1.type seen = true := by
  induction tags generalizing useful with
  | nil => cases h
  | cons first rest ih =>
    rw [usefulAmong]
    split
    · rename_i huseless
      rcases List.mem_cons.1 h with rfl | hrest
      · obtain ⟨seen, hseen, hbelow⟩ := isSameOrSubclass_of_isUseless huseless
        exact ⟨seen, List.mem_append_left _ hseen, hbelow⟩
      · exact ih useful hrest
    · rcases List.mem_cons.1 h with rfl | hrest
      · exact ⟨tag.1.type, by simp, r.hierarchy.isSameOrSubclass_refl _⟩
      · obtain ⟨seen, hseen, hbelow⟩ := ih (useful ++ [first.1.type]) hrest
        rw [List.append_assoc] at hseen
        exact ⟨seen, hseen, hbelow⟩

theorem exists_usefulTag_above {tags : List ThrowsTag} {tag : ThrowsTag} (h : tag ∈ tags) :
    ∃ kept ∈ usefulTags r.hierarchy tags,
      r.hierarchy.isSameOrSubclass tag.type kept.type = true := by
  obtain ⟨i, hi⟩ := List.mem_iff_getElem?.1 h
  have hsorted : (tag, i) ∈ sortedTags r.hierarchy tags :=
    mem_sortedTags.2 (List.mem_zipIdx_iff_getElem?.2 hi)
  obtain ⟨seen, hseen, hbelow⟩ := exists_useful_above [] hsorted
  obtain ⟨⟨kept, j⟩, hkept, rfl⟩ := List.mem_map.1 hseen
  exact ⟨kept, mem_usefulTags.2 ⟨j, hkept⟩, hbelow⟩

/-- The useful tags cover what all tags cover. -/
theorem covers_usefulTags (tags : List ThrowsTag) (thrown : ClassName) :
    (∃ tag ∈ tags, r.hierarchy.interception tag.type thrown = .always)
      ↔ ∃ tag ∈ usefulTags r.hierarchy tags,
          r.hierarchy.interception tag.type thrown = .always := by
  constructor
  · rintro ⟨tag, htag, halways⟩
    obtain ⟨kept, hkept, habove⟩ := exists_usefulTag_above htag
    rw [Hierarchy.interception_eq_always_iff] at halways
    exact ⟨kept, hkept,
      Hierarchy.interception_eq_always_iff.2 (Registry.isSameOrSubclass_trans halways habove)⟩
  · rintro ⟨tag, htag, halways⟩
    exact ⟨tag, (usefulTags_sublist tags).mem htag, halways⟩

end Registry

end TagFinding

/-- The contract without its useless tags. -/
def Contract.trimmed (H : Hierarchy) (contract : Contract) : Contract :=
  { contract with tags := TagFinding.usefulTags H contract.tags }

/-! ## Units with trimmed contracts -/

namespace Checker

variable {K : Checker}

/-- The codes of the reports about types that escape. -/
def escapeCodes : List Code := [.missingThrows, .throwInGlobalScope]

variable (K) in
/-- Nodes at one line of which the second may be the start of a function without the useless tags
    that the first has. -/
inductive Trims (contract : Contract) : Node × Nat → Node × Nat → Prop where
  | same (node : Node × Nat) : Trims contract node node
  | trimmed (line : Nat) :
      Trims contract (.functionStart contract, line)
        (.functionStart (contract.trimmed K.hierarchy), line)

/-- A function is entered with the same cover when its useless tags are gone. -/
theorem startFrame_trimmed {r : Registry} (hregistry : K.hierarchy = r.hierarchy)
    (contract : Contract) :
    (K.startFrame (.function contract)).CoversAlike K.hierarchy
      (K.startFrame (.function (contract.trimmed K.hierarchy))) := by
  refine .functionBody rfl ?_
  intro thrown
  have hcovers := TagFinding.covers_usefulTags (r := r) contract.tags thrown
  rw [← hregistry] at hcovers
  rw [covers_eq thrown rfl, covers_eq thrown rfl, Bool.eq_iff_iff, List.any_eq_true,
    List.any_eq_true]
  simp only [beq_iff_eq]
  exact hcovers.symm

theorem reported_uselessTags (contract : Contract) (line : Nat) :
    Outcome.reported escapeCodes (.ok (K.uselessTags contract line)) = [] := by
  refine Outcome.reported_eq_nil ?_
  intro d hd
  obtain ⟨type, -, rfl⟩ := List.mem_map.1 hd
  simp [report, escapeCodes]

theorem reported_unusedThrows (body : FunctionBody) (line : Nat) :
    Outcome.reported escapeCodes (.ok (K.unusedThrows body line)) = [] := by
  refine Outcome.reported_eq_nil ?_
  intro d hd
  rw [unusedThrows] at hd
  split at hd
  · cases hd
  · obtain ⟨type, -, rfl⟩ := List.mem_map.1 hd
    simp [report, escapeCodes]

theorem reported_endReports {f g : Frame} (h : f.CoversAlike K.hierarchy g) (line : Nat) :
    Outcome.reported escapeCodes (.ok (K.endReports line g))
      = Outcome.reported escapeCodes (.ok (K.endReports line f)) := by
  cases h with
  | tryBody region => rfl
  | functionBody _ _ =>
    exact (reported_unusedThrows _ line).trans (reported_unusedThrows _ line).symm

/-- What is compared of outcomes: why a node is refused, and what escapes at it. -/
def escapesOf (outcome : Outcome) : Option CheckError × List Diagnostic :=
  (outcome.error?, outcome.reported escapeCodes)

/-- **Among frames that cover alike, the same escapes at a node, and they go on covering alike.** -/
theorem visit_trims {r : Registry} (hregistry : K.hierarchy = r.hierarchy) {contract : Contract}
    {frames like : List Frame} (h : List.Forall₂ (Frame.CoversAlike K.hierarchy) frames like)
    {node other : Node × Nat} (hnode : K.Trims contract node other) :
    escapesOf (K.visit ⟨like⟩ other.1 other.2).1 = escapesOf (K.visit ⟨frames⟩ node.1 node.2).1 ∧
      List.Forall₂ (Frame.CoversAlike K.hierarchy) (K.visit ⟨frames⟩ node.1 node.2).2.frames
        (K.visit ⟨like⟩ other.1 other.2).2.frames := by
  cases hnode with
  | trimmed line =>
    rw [@visit_opens K frames _ (.function contract) rfl,
      @visit_opens K like _ (.function (contract.trimmed K.hierarchy)) rfl]
    have hrefusal : K.refusal? (.function (contract.trimmed K.hierarchy))
        = K.refusal? (.function contract) := rfl
    rw [hrefusal]
    cases K.refusal? (.function contract) with
    | none =>
      refine ⟨?_, .cons (startFrame_trimmed hregistry contract) h⟩
      exact Prod.ext rfl ((reported_uselessTags _ line).trans (reported_uselessTags _ line).symm)
    | some e => exact ⟨rfl, h⟩
  | same node =>
    obtain ⟨node, line⟩ := node
    cases hrole : node.role with
    | opens start =>
      rw [visit_opens frames hrole, visit_opens like hrole]
      cases K.refusal? start with
      | none => exact ⟨rfl, .cons (.refl _) h⟩
      | some e => exact ⟨rfl, h⟩
    | closes kind =>
      rw [visit_closes frames hrole, visit_closes like hrole]
      cases h with
      | nil => exact ⟨rfl, .nil⟩
      | @cons f g rest likeRest halike hrest =>
        simp only [halike.kind_eq]
        split
        · exact ⟨Prod.ext rfl (reported_endReports halike line), hrest⟩
        · exact ⟨rfl, .cons halike hrest⟩
    | throws construct =>
      rw [visit_throws frames hrole, visit_throws like hrole, throwReports_coversAlike h]
      exact ⟨rfl, passAll_coversAlike _ h⟩

/-- Nodes that are visited one after the other let the same escape. -/
theorem visitAll_trims {r : Registry} (hregistry : K.hierarchy = r.hierarchy) {contract : Contract}
    {nodes others : List (Node × Nat)} (hnodes : List.Forall₂ (K.Trims contract) nodes others)
    {scope like : Scope}
    (h : List.Forall₂ (Frame.CoversAlike K.hierarchy) scope.frames like.frames) :
    (K.visitAll like others).1.map escapesOf = (K.visitAll scope nodes).1.map escapesOf := by
  induction hnodes generalizing scope like with
  | nil => rfl
  | cons hnode _ ih =>
    obtain ⟨houtcome, hnext⟩ := visit_trims hregistry h hnode
    exact congrArg₂ List.cons houtcome (ih hnext)

/-- **Useless tags can be deleted, all at once.** The useless tags are those that are not useful,
    and without them every tag is still at or below one of the contract, which covers the same types
    as before. If the contract is replaced, wherever it stands or in some of these places, a unit is
    refused for the same reason or not at all, and at every node the same types escape. And of the
    tags that are left none is useless. -/
theorem trimming_keeps_contracts (K : Checker) {r : Registry}
    (hregistry : K.hierarchy = r.hierarchy) (contract : Contract) :
    TagFinding.uselessTypes K.hierarchy contract.tags
      = ((TagFinding.sortedTags K.hierarchy contract.tags).filter fun tag =>
          tag ∉ TagFinding.usefulAmong K.hierarchy []
            (TagFinding.sortedTags K.hierarchy contract.tags)).map (fun tag => tag.1.type) ∧
    (contract.trimmed K.hierarchy).tags.Sublist contract.tags ∧
    (∀ tag ∈ contract.tags, ∃ kept ∈ (contract.trimmed K.hierarchy).tags,
      K.hierarchy.isSameOrSubclass tag.type kept.type = true) ∧
    (∀ thrown, (∃ tag ∈ contract.tags, K.hierarchy.interception tag.type thrown = .always)
      ↔ ∃ tag ∈ (contract.trimmed K.hierarchy).tags,
          K.hierarchy.interception tag.type thrown = .always) ∧
    (∀ nodes others, List.Forall₂ (K.Trims contract) nodes others →
      (K.run .start others).1 = (K.run .start nodes).1 ∧
      (K.runThrough .start others).1.map (Outcome.reported escapeCodes)
        = (K.runThrough .start nodes).1.map (Outcome.reported escapeCodes)) ∧
    TagFinding.uselessTypes K.hierarchy (contract.trimmed K.hierarchy).tags = [] := by
  refine ⟨TagFinding.uselessTypes_eq _, TagFinding.usefulTags_sublist _, ?_, ?_, ?_,
    TagFinding.uselessTypes_usefulTags _⟩
  · rw [hregistry]
    exact fun tag htag => TagFinding.exists_usefulTag_above htag
  · rw [hregistry]
    exact TagFinding.covers_usefulTags contract.tags
  · intro nodes others hnodes
    have hescapes := @visitAll_trims K r hregistry contract nodes others hnodes .empty .empty .nil
    constructor
    · have herrors := congrArg (List.findSome? Prod.fst) hescapes
      rw [List.findSome?_map, List.findSome?_map] at herrors
      rw [run_fst, run_fst]
      exact herrors
    · have hreported := congrArg (List.map Prod.snd) hescapes
      rw [List.map_map, List.map_map] at hreported
      rw [runThrough_eq, runThrough_eq]
      exact hreported

/-- A checker for a hierarchy in which two classes are below each other. -/
def circular : Checker := { small with hierarchy := Registry.circle.hierarchy }

/-- A described special case, two classes that extend each other, and one of them once more. -/
def repetitive : Contract :=
  ⟨.closure, [⟨"Timeout", some "after ten seconds"⟩, ⟨"Fault", none⟩, ⟨"\\Failure", none⟩,
    ⟨"Failure", some "again"⟩]⟩

def trimmedTags : List ThrowsTag :=
  [⟨"Timeout", some "after ten seconds"⟩, ⟨"\\Failure", none⟩]

def repetitiveUnit (contract : Contract) : List (Node × Nat) :=
  [(.functionStart contract, 1),
   (.throwNew ⟨"Fault"⟩, 2),
   (.functionStart ⟨.closure, []⟩, 3),
   (.throwNew ⟨"Timeout"⟩, 4),
   (.functionEnd, 5),
   (.functionEnd, 6)]

/-- Of two classes that extend each other one is enough, and the described special case stays. -/
theorem trimming_keeps_contracts_in_circle :
    circular.hierarchy.isSubclass ⟨"Fault"⟩ ⟨"Failure"⟩ = true ∧
    circular.hierarchy.isSubclass ⟨"Failure"⟩ ⟨"Fault"⟩ = true ∧
    TagFinding.uselessTypes circular.hierarchy repetitive.tags = [⟨"Failure"⟩, ⟨"Fault"⟩] ∧
    repetitive.trimmed circular.hierarchy = ⟨.closure, trimmedTags⟩ ∧
    (∃ kept ∈ trimmedTags, circular.hierarchy.isSameOrSubclass ⟨"Fault"⟩ kept.type = true) ∧
    (circular.run .start (repetitiveUnit ⟨.closure, trimmedTags⟩)).1 = none ∧
    (circular.runThrough .start (repetitiveUnit ⟨.closure, trimmedTags⟩)).1.tail.map
        (Outcome.reported escapeCodes)
      = [[], [], [circular.report 4 .missingThrows [⟨"Timeout"⟩]], [], []] ∧
    TagFinding.uselessTypes circular.hierarchy trimmedTags = [] := by
  have huseless : TagFinding.uselessTypes circular.hierarchy repetitive.tags
      = [⟨"Failure"⟩, ⟨"Fault"⟩] := by
    rw [TagFinding.uselessTypes, Hierarchy.sortSupertypesFirst_eq_foldr]
    decide +kernel
  have htrimmed : repetitive.trimmed circular.hierarchy = ⟨.closure, trimmedTags⟩ := by
    simp only [Contract.trimmed, TagFinding.usefulTags, TagFinding.sortedTags,
      Hierarchy.sortSupertypesFirst_eq_foldr]
    decide +kernel
  obtain ⟨-, -, habove, -, hunits, hnone⟩ :=
    trimming_keeps_contracts circular (r := Registry.circle) rfl repetitive
  rw [htrimmed] at habove hnone
  have hnodes : List.Forall₂ (circular.Trims repetitive) (repetitiveUnit repetitive)
      (repetitiveUnit ⟨.closure, trimmedTags⟩) := by
    rw [← htrimmed]
    exact .cons (.trimmed 1) (List.forall₂_same.2 fun node _ => .same node)
  obtain ⟨hrun, hreported⟩ := hunits _ _ hnodes
  refine ⟨by decide +kernel, by decide +kernel, huseless, htrimmed,
    habove ⟨"Fault", none⟩ (by simp [repetitive]), ?_, ?_, hnone⟩
  · rw [hrun]
    decide +kernel
  · rw [List.map_tail, hreported, ← List.map_tail]
    decide +kernel

end Checker

end ExceptionFlow
