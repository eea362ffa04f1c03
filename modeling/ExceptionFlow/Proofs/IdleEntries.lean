import ExceptionFlow.Proofs.Replacement

set_option autoImplicit false

/-! # Deleting entries for which nothing is thrown

When a try body ends, the entries are reported for which nothing was thrown. If they are deleted,
the rest of the unit does not notice: no construct is reported in another way, and neither is any
other body (`Checker.dropping_neverThrown_entries`).

A reported entry may well be able to catch what is thrown, as long as an earlier clause does so
before it. What counts is that every type that leaves the body is observed in the first clause that
catches it, so that this clause keeps an entry that does so (`Checker.catches_busyClauses`). Hence
the same types get out of the try, and the bodies around it and the constructs in it see nothing
else of it.

All this needs counters that hold what is observed: one that runs over may show zero for an entry
that is needed. -/

namespace ExceptionFlow

/-! ## Fewer entries -/

/-- An open clause without the entries of some sort. -/
def OpenClause.without (drop : CatchEntry → Bool) (c : OpenClause) : OpenClause :=
  { c with entries := c.entries.filter fun e => !drop e }

namespace TryRegion

/-- The clauses of an open try body as they are written. -/
def written (region : TryRegion) : List CatchClause :=
  region.clauses.map fun c => ⟨c.entries.map (·.type), c.line⟩

/-- An open try body without the entries of some sort. All clauses stay, also those without an
    entry. -/
def without (drop : CatchEntry → Bool) (region : TryRegion) : TryRegion :=
  ⟨region.clauses.map (OpenClause.without drop)⟩

theorem catches_written {H : Hierarchy} {region : TryRegion} {thrown : ClassName} :
    Catches H region.written thrown ↔ region.catches H thrown = true := by
  simp only [catches, List.any_eq_true, beq_iff_eq]
  constructor
  · rintro ⟨c, hc, type, htype, halways⟩
    obtain ⟨original, horiginal, rfl⟩ := List.mem_map.1 hc
    obtain ⟨e, he, rfl⟩ := List.mem_map.1 htype
    exact ⟨original, horiginal, e, he, halways⟩
  · rintro ⟨c, hc, e, he, halways⟩
    exact ⟨_, List.mem_map_of_mem hc, e.type, List.mem_map_of_mem he, halways⟩

section Without

variable {H : Hierarchy} {drop : CatchEntry → Bool} {region : TryRegion} {thrown : ClassName}

theorem catches_of_without (h : (region.without drop).catches H thrown = true) :
    region.catches H thrown = true := by
  simp only [catches, without, OpenClause.without, List.any_eq_true, List.mem_map] at h ⊢
  obtain ⟨_, ⟨c, hc, rfl⟩, e, he, halways⟩ := h
  exact ⟨c, hc, e, (List.mem_filter.1 he).1, halways⟩

theorem catches_without {c : OpenClause} {e : CatchEntry} (hc : c ∈ region.clauses)
    (he : e ∈ c.entries) (hdrop : drop e = false)
    (halways : H.interception e.type thrown = .always) :
    (region.without drop).catches H thrown = true := by
  have hkept : e ∈ (c.without drop).entries := by
    refine List.mem_filter.2 ⟨he, ?_⟩
    rw [hdrop]
    rfl
  refine List.any_eq_true.2 ⟨c.without drop, List.mem_map_of_mem hc, ?_⟩
  exact List.any_eq_true.2 ⟨e, hkept, beq_iff_eq.2 halways⟩

end Without

end TryRegion

/-- Of the clauses that catch a type, one is the first. -/
theorem Catches.exists_first {H : Hierarchy} {clauses : List CatchClause} {thrown : ClassName}
    (h : Catches H clauses thrown) :
    ∃ k c, clauses[k]? = some c ∧ (∃ type ∈ c.types, H.interception type thrown = .always) ∧
      ¬ Catches H (clauses.take k) thrown := by
  induction clauses with
  | nil =>
    obtain ⟨c, hc, -⟩ := h
    cases hc
  | cons c rest ih =>
    by_cases hcatches : ∃ type ∈ c.types, H.interception type thrown = .always
    · refine ⟨0, c, rfl, hcatches, ?_⟩
      rintro ⟨_, hmem, -⟩
      cases hmem
    · have hrest : Catches H rest thrown := by
        obtain ⟨d, hd, hcaught⟩ := h
        rcases List.mem_cons.1 hd with rfl | hd
        · exact absurd hcaught hcatches
        · exact ⟨d, hd, hcaught⟩
      obtain ⟨k, d, hd, hcaught, hfirst⟩ := ih hrest
      refine ⟨k + 1, d, hd, hcaught, ?_⟩
      rintro ⟨b, hb, hearlier⟩
      rcases List.mem_cons.1 hb with rfl | hb
      · exact hcatches hearlier
      · exact hfirst ⟨b, hb, hearlier⟩

namespace Checker

variable (K : Checker)

/-- The open try body that starts with some clauses, behind the nodes of its body. -/
def regionBehind (clauses : List CatchClause) (body : List (Node × Nat)) : TryRegion :=
  ⟨(clauseRelay K.hierarchy).passAll (K.leaving body) (K.regionOf clauses).clauses⟩

variable {K} {clauses : List CatchClause} {body : List (Node × Nat)}

theorem regionBehind_eq :
    K.regionBehind clauses body
      = ⟨clauses.zipIdx.map fun c =>
          ⟨c.1.line, c.1.types.zipIdx.map fun e =>
            observedEntry K.hierarchy (K.leaving body)
              (fun k i => (CatchFinding.ofClauses K.hierarchy clauses).any (CatchFinding.isAt k i))
              clauses c.2 e.2 e.1⟩⟩ :=
  Frame.tryBody.inj ((frameOf_tryBody clauses body).symm.trans (frameOf_tryBody_eq clauses body))

theorem written_regionBehind : (K.regionBehind clauses body).written = clauses := by
  rw [regionBehind_eq, TryRegion.written, List.map_map]
  simp [Function.comp_def, observedEntry]

variable (K clauses body) in
/-- The clauses of a try without the entries that are reported when its body ends. -/
def busyClauses : List CatchClause :=
  ((K.regionBehind clauses body).without K.isNeverThrown).written

/-- An entry that has observed a type is not reported. -/
theorem isNeverThrown_eq_false {marked : Nat → Nat → Bool} {k i : Nat} {type thrown : ClassName}
    (hholds : (observedTypes K.hierarchy (K.leaving body) clauses k type).length < UInt32.size)
    (hseen : thrown ∈ observedTypes K.hierarchy (K.leaving body) clauses k type) :
    K.isNeverThrown (observedEntry K.hierarchy (K.leaving body) marked clauses k i type)
      = false := by
  have hcounted : (observedEntry K.hierarchy (K.leaving body) marked clauses k i type).counter
      ≠ 0 := by
    rw [ne_eq, counter_observedEntry_eq_zero_iff hholds]
    exact List.ne_nil_of_mem hseen
  rw [isNeverThrown, beq_false_of_ne hcounted, Bool.false_and, Bool.false_and]

/-- **What leaves the body is caught as before**, as long as the counters hold. -/
theorem catches_busyClauses (hholds : K.CountersHold clauses body) {thrown : ClassName}
    (h : thrown ∈ K.leaving body) :
    Catches K.hierarchy (K.busyClauses clauses body) thrown
      ↔ Catches K.hierarchy clauses thrown := by
  rw [busyClauses, TryRegion.catches_written]
  constructor
  · intro hcatches
    rw [← @written_regionBehind K clauses body, TryRegion.catches_written]
    exact TryRegion.catches_of_without hcatches
  · -- the first clause that catches the type has observed it, and keeps the entry for it
    intro hcatches
    obtain ⟨k, c, hc, ⟨type, htype, halways⟩, hfirst⟩ := hcatches.exists_first
    obtain ⟨i, hi⟩ := List.getElem?_of_mem htype
    have hseen : thrown ∈ observedTypes K.hierarchy (K.leaving body) clauses k type := by
      refine mem_observedTypes.2 ⟨h, hfirst, ?_⟩
      rw [halways]
      decide
    rw [regionBehind_eq]
    exact TryRegion.catches_without
      (List.mem_map_of_mem (a := (c, k)) (List.mem_zipIdx_iff_getElem?.2 hc))
      (List.mem_map_of_mem (a := (type, i)) (List.mem_zipIdx_iff_getElem?.2 hi))
      (isNeverThrown_eq_false (hholds k c hc type htype) hseen) halways

/-! ## What gets out of the try -/

/-- What a node throws past the openings before it in the body leaves the body. -/
theorem mem_leaving_of_thrownPast {xs ys : List (Node × Nat)} {node : Node × Nat}
    {thrown : ClassName} (h : thrown ∈ K.thrownPast (openings xs) node.1.role) :
    thrown ∈ K.leaving (xs ++ node :: ys) := by
  rw [leaving, leavingAfter_append, leavingAfter, List.nil_append]
  exact List.mem_append_right _ (List.mem_append_left _ h)

theorem passesAlike_busyClauses (hholds : K.CountersHold clauses body) (hbody : Innermost body)
    {last : Node × Nat} (hlast : last.1.isEnd = true) (behind : List (Node × Nat)) :
    K.PassesAlike (.tryBody clauses) (.tryBody (K.busyClauses clauses body))
      (body ++ last :: behind) := by
  intro xs node ys hsplit hends t ht
  have hnode : node.1.isEnd = false := by
    rw [← Bool.not_eq_true, Node.isEnd_iff]
    rintro ⟨kind, hrole⟩
    rw [hrole] at ht
    cases ht
  obtain ⟨mid, rfl⟩ := inside_before_end hsplit.symm hends hnode hlast hbody.2
  rw [Opening.passes, Opening.passes, decide_eq_decide.2]
  exact catches_busyClauses hholds (mem_leaving_of_thrownPast ht)

/-! ## The rest of the unit -/

/-- The codes of the reports that are not about catch clauses. -/
def contractCodes : List Code :=
  [.missingThrows, .unusedThrows, .uselessThrows, .throwInGlobalScope]

theorem reported_pointlessCatch (findings : List CatchFinding) :
    Outcome.reported contractCodes (.ok (findings.map K.pointlessCatch)) = [] := by
  refine Outcome.reported_eq_nil ?_
  intro d hd
  obtain ⟨f, -, rfl⟩ := List.mem_map.1 hd
  rw [pointlessCatch]
  cases f.fault <;> simp [report, contractCodes]

theorem reported_neverThrown (region : TryRegion) :
    Outcome.reported contractCodes (.ok (K.neverThrown region)) = [] := by
  refine Outcome.reported_eq_nil ?_
  intro d hd
  obtain ⟨c, -, hc⟩ := List.mem_flatMap.1 hd
  obtain ⟨e, -, rfl⟩ := List.mem_map.1 hc
  simp [report, contractCodes]

section Unit

variable {before behind : List (Node × Nat)} {last : Node × Nat} {line : Nat} {s : State}

/-- The end of a try body reports from what its clauses have counted. -/
theorem reportsAt_tryEnd (before : List (Node × Nat)) (clauses : List CatchClause) (line : Nat)
    (hbody : Innermost body) (hlast : last.1.isEnd = true) :
    K.reportsAt (before ++ (.tryStart clauses, line) :: body) last
      = K.neverThrown (K.regionBehind clauses body) := by
  have hreports := reportsAt_end (K := K) before (.tryBody clauses) line hbody hlast
  rwa [frameOf_tryBody] at hreports

theorem getElem?_runThrough_tryEnd
    (h : K.run .start (before ++ (.tryStart clauses, line) :: (body ++ last :: behind)) = (none, s))
    (hbody : Innermost body) (hlast : last.1.isEnd = true) :
    (K.runThrough .start (before ++ (.tryStart clauses, line) :: (body ++ last :: behind))).1[
        before.length + (body.length + 1)]?
      = some (.ok (K.neverThrown (K.regionBehind clauses body))) := by
  rw [getElem?_runThrough_behind h, reportsAt_tryEnd before clauses line hbody hlast]

/-- The outcomes of a unit without the entries of a try that are reported at the end of its body. -/
theorem runThrough_busyClauses
    (h : K.run .start (before ++ (.tryStart clauses, line) :: (body ++ last :: behind)) = (none, s))
    (hholds : K.CountersHold clauses body) (hbody : Innermost body) (hlast : last.1.isEnd = true) :
    (K.runThrough .start (before ++ (.tryStart (K.busyClauses clauses body), line) ::
        (body ++ last :: behind))).1
      = (K.runThrough .start (before ++ (.tryStart clauses, line) ::
          (body ++ last :: behind))).1.mapIdx fun k outcome =>
            if k = before.length then
              .ok ((CatchFinding.ofClauses K.hierarchy (K.busyClauses clauses body)).map
                K.pointlessCatch)
            else if k = before.length + (body.length + 1) then
              .ok (K.neverThrown (K.regionBehind (K.busyClauses clauses body) body))
            else outcome := by
  have hends : endsBody (before ++ (.tryStart clauses, line) :: (body ++ last :: behind))
      before.length (before.length + (body.length + 1)) = true :=
    (endsBody_behind before (.tryBody clauses) line body last behind).2 ⟨hlast, hbody⟩
  refine @runThrough_restarted K before (.tryBody clauses) (.tryBody (K.busyClauses clauses body))
    line (body ++ last :: behind) rfl rfl s h _ ?_ ?_ ?_
  · intro k hk outcome
    rw [if_neg (by omega), if_neg (by omega)]
  · intro outcome
    exact if_pos rfl
  · intro inner node after hsplit
    rw [if_neg (by omega)]
    split
    · -- the end of the body, which has its own entries to account for
      rename_i hposition
      obtain ⟨rfl, hnode⟩ := List.append_inj hsplit (by omega)
      obtain ⟨rfl, rfl⟩ := List.cons.inj hnode
      exact congrArg Except.ok (reportsAt_tryEnd before _ line hbody hlast).symm
    · rename_i hposition
      have hend : ¬ (node.1.isEnd = true ∧ Innermost inner) := by
        intro hend
        have hends' := (endsBody_behind before (.tryBody clauses) line inner node after).2 hend
        rw [← hsplit] at hends'
        exact hposition (endsBody_unique hends' hends)
      have halike : K.PassesAlike (.tryBody clauses) (.tryBody (K.busyClauses clauses body))
          (inner ++ node :: after) := by
        rw [← hsplit]
        exact passesAlike_busyClauses hholds hbody hlast behind
      exact congrArg Except.ok (reportsAt_retried before line halike hend).symm

/-- Whatever changes at the start of the try and at the end of its body, it is not about contracts.
    -/
theorem reported_busyClauses
    (h : K.run .start (before ++ (.tryStart clauses, line) :: (body ++ last :: behind)) = (none, s))
    (hholds : K.CountersHold clauses body) (hbody : Innermost body) (hlast : last.1.isEnd = true) :
    (K.runThrough .start (before ++ (.tryStart (K.busyClauses clauses body), line) ::
        (body ++ last :: behind))).1.map (Outcome.reported contractCodes)
      = (K.runThrough .start (before ++ (.tryStart clauses, line) ::
          (body ++ last :: behind))).1.map (Outcome.reported contractCodes) := by
  rw [runThrough_busyClauses h hholds hbody hlast]
  refine map_mapIdx_eq_map ?_
  intro k outcome houtcome
  split
  · rename_i hk
    rw [hk, getElem?_runThrough h] at houtcome
    rw [← Option.some.inj houtcome, reported_pointlessCatch]
    exact (reported_pointlessCatch _).symm
  · split
    · rename_i hk
      rw [hk, getElem?_runThrough_tryEnd h hbody hlast] at houtcome
      rw [← Option.some.inj houtcome, reported_neverThrown, reported_neverThrown]
    · rfl

/-- Up to the end of the body, the bodies around the try have counted the same. -/
theorem frames_busyClauses {t : State}
    (h : K.run .start (before ++ (.tryStart (K.busyClauses clauses body), line) ::
      (body ++ last :: behind)) = (none, t))
    (hholds : K.CountersHold clauses body) (hbody : Innermost body) (hlast : last.1.isEnd = true) :
    (K.run .start (before ++ (.tryStart (K.busyClauses clauses body), line) :: body)).2.scope.frames
      = .tryBody (K.regionBehind (K.busyClauses clauses body) body) ::
          ((openBodies before).map
            (OpenBody.extend ((.tryStart clauses, line) :: body))).map K.frameOf := by
  have halike : K.PassesAlike (.tryBody clauses) (.tryBody (K.busyClauses clauses body)) body :=
    (passesAlike_busyClauses hholds hbody hlast behind).of_append
  have hframes := @frames_before_end K before body behind
    (.tryBody (K.busyClauses clauses body)) line last t h hbody
  rw [frameOf_tryBody] at hframes
  refine hframes.trans (congrArg (List.cons _) ?_)
  rw [List.map_map, List.map_map]
  exact List.map_congr_left fun b _ => frameOf_restarted line halike b

end Unit

/-- **Deleting entries for which nothing is thrown changes nothing outside of their try.** In a
    closed unit the body of every try has an end, where its entries are reported for which nothing
    was thrown. Without all of them, each clause in its place, the unit is accepted and closed as
    before. The bodies around the try have counted the same up to that end, and only the start of
    the try and the end of its body may have another outcome. What is reported there is about the
    clauses of the try, so that the reports about contracts are the same everywhere. No entry may be
    observed so often in the body that its counter runs over. -/
theorem dropping_neverThrown_entries (K : Checker) {nodes : List (Node × Nat)} {i line : Nat}
    {clauses : List CatchClause} {s : State} (h : K.run .start nodes = (none, s))
    (hclosed : s.scope.isEmpty = true) (hstart : nodes[i]? = some (.tryStart clauses, line))
    (hholds : ∀ j, endsBody nodes i j = true →
      K.CountersHold clauses ((nodes.take j).drop (i + 1))) :
    ∃ j region outer, endsBody nodes i j = true ∧
      (K.run .start (nodes.take j)).2.scope.frames = .tryBody region :: outer ∧
      region.written = clauses ∧
      (K.runThrough .start nodes).1[j]? = some (.ok (K.neverThrown region)) ∧
      ∃ kept others t after, kept = (region.without K.isNeverThrown).written ∧
        others = nodes.set i (.tryStart kept, line) ∧
        K.run .start others = (none, t) ∧ t.scope.isEmpty = true ∧
        (K.run .start (others.take j)).2.scope.frames = .tryBody after :: outer ∧
        (K.runThrough .start others).1
          = (K.runThrough .start nodes).1.mapIdx (fun k outcome =>
              if k = i then .ok ((CatchFinding.ofClauses K.hierarchy kept).map K.pointlessCatch)
              else if k = j then .ok (K.neverThrown after)
              else outcome) ∧
        (K.runThrough .start others).1.map (Outcome.reported contractCodes)
          = (K.runThrough .start nodes).1.map (Outcome.reported contractCodes) := by
  obtain ⟨before, rest, rfl, rfl⟩ := exists_append_cons_of_getElem? hstart
  obtain ⟨j, hj⟩ := @exists_endsBody K before rest line (.tryBody clauses) s h hclosed
  obtain ⟨body, last, behind, rfl, rfl, hlast, hbody⟩ :=
    @exists_of_endsBody before rest (.tryBody clauses) line j hj
  have hholds : K.CountersHold clauses body := by
    have hcounters := hholds _ hj
    rwa [take_append_cons_append, ← List.drop_drop, List.drop_left] at hcounters
  obtain ⟨t, hrun, hempty⟩ :=
    @run_restarted K before (.tryBody clauses) (.tryBody (K.busyClauses clauses body)) line
      (body ++ last :: behind) rfl rfl s h hclosed
  have hframes := @frames_before_end K before body behind (.tryBody clauses) line last s h hbody
  rw [frameOf_tryBody] at hframes
  refine ⟨_, K.regionBehind clauses body,
    ((openBodies before).map (OpenBody.extend ((.tryStart clauses, line) :: body))).map K.frameOf,
    hj, ?_, written_regionBehind, getElem?_runThrough_tryEnd h hbody hlast,
    K.busyClauses clauses body, _, t, K.regionBehind (K.busyClauses clauses body) body, rfl,
    (set_append_cons ..).symm, hrun, hempty, ?_, runThrough_busyClauses h hholds hbody hlast,
    reported_busyClauses h hholds hbody hlast⟩
  · rw [take_append_cons_append]
    exact hframes
  · rw [take_append_cons_append]
    exact frames_busyClauses hrun hholds hbody hlast

/-- Of the clauses of the inner try, the second could catch what is thrown but comes too late, and
    the third repeats it. -/
def lateClauses : List CatchClause :=
  [⟨[⟨"DomainException"⟩], 7⟩, ⟨[⟨"LogicException"⟩], 8⟩, ⟨[⟨"LogicException"⟩], 9⟩]

def lateCatches : List (Node × Nat) :=
  [(.functionStart ⟨.closure, [⟨"RangeException", none⟩]⟩, 1),
   (.tryStart [⟨[⟨"RangeException"⟩], 11⟩], 2),
   (.tryStart lateClauses, 3),
   (.throwNew ⟨"DomainException"⟩, 4),
   (.throwNew ⟨"RuntimeException"⟩, 5),
   (.tryEnd, 6),
   (.tryEnd, 10),
   (.functionEnd, 12)]

/-- The late entry is deleted, and what is missing in the function is reported as before. -/
theorem dropping_neverThrown_entries_lateCatches :
    (small.run .start lateCatches).1 = none ∧
    (small.run .start lateCatches).2.scope.isEmpty = true ∧
    endsBody lateCatches 2 5 = true ∧
    small.CountersHold lateClauses ((lateCatches.take 5).drop 3) ∧
    ∃ region outer t,
      (small.run .start (lateCatches.take 5)).2.scope.frames = .tryBody region :: outer ∧
      region.written = lateClauses ∧
      small.neverThrown region = [small.report 8 .neverThrown [⟨"LogicException"⟩]] ∧
      small.run .start (lateCatches.set 2
        (.tryStart (region.without small.isNeverThrown).written, 3)) = (none, t) ∧
      t.scope.isEmpty = true ∧
      (small.runThrough .start (lateCatches.set 2
          (.tryStart (region.without small.isNeverThrown).written, 3))).1.map
            (Outcome.reported contractCodes)
        = [[], [], [], [], [small.report 5 .missingThrows [⟨"RuntimeException"⟩]], [], [], []] := by
  have hrun : (small.run .start lateCatches).1 = none := by decide +kernel
  have hclosed : (small.run .start lateCatches).2.scope.isEmpty = true := by decide +kernel
  have hfive : endsBody lateCatches 2 5 = true := by decide +kernel
  have honly {j : Nat} (hj : endsBody lateCatches 2 j = true) : j = 5 :=
    @endsBody_unique (lateCatches.take 2) (lateCatches.drop 3) (.tryBody lateClauses) 3 j 5 hj hfive
  have hholds : small.CountersHold lateClauses ((lateCatches.take 5).drop 3) :=
    countersHold_of_length_leaving (by decide +kernel)
  obtain ⟨j, region, outer, hj, hframes, hwritten, hend, _, _, t, _, rfl, rfl, ht, hempty, -, -,
      hreported⟩ :=
    @dropping_neverThrown_entries small lateCatches 2 3 lateClauses _ (run_eq_of_fst hrun) hclosed
      rfl fun _ hj => honly hj ▸ hholds
  obtain rfl := honly hj
  have hnever : some (small.neverThrown region)
      = some [small.report 8 .neverThrown [⟨"LogicException"⟩]] := by
    have hfound : (small.runThrough .start lateCatches).1[5]?.map Outcome.diagnostics
        = some [small.report 8 .neverThrown [⟨"LogicException"⟩]] := by
      decide +kernel
    rwa [hend] at hfound
  refine ⟨hrun, hclosed, hfive, hholds, region, outer, t, hframes, hwritten,
    Option.some.inj hnever, ht, hempty, ?_⟩
  rw [hreported]
  decide +kernel

end Checker

end ExceptionFlow
