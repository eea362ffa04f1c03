import ExceptionFlow.Proofs.Lists
import ExceptionFlow.Scope

set_option autoImplicit false

/-! # Nesting

The starts and ends of bodies bracket the nodes of a unit. This module reads the bracketing off the
nodes alone, with no scope that is kept while they are visited: an end is unmatched if too few
starts stand before it, and a body is open after some nodes if the nodes behind its start leave no
end unmatched. `openBodies_append` says how both views change as nodes are added, and
`openBodies_inner` that whatever is open inside a body is found by looking at that body only.

The function that a node stands in is the innermost one that is open there. It is named by its
contract (`enclosingFunction?`) or, where two functions with one contract are to be told apart, by
the position of its start (`enclosingFunctionAt?`).

A balanced sequence pairs every start with an end of its own kind. It leaves nothing open, so the
innermost open body behind it is the one before it. -/

namespace ExceptionFlow

/-! ## The parts that nodes play -/

/-- What begins a body. -/
inductive Opening where
  | function (contract : Contract)
  | tryBody (clauses : List CatchClause)

namespace Opening

def node : Opening → Node
  | .function contract => .functionStart contract
  | .tryBody clauses => .tryStart clauses

def kind : Opening → FrameKind
  | .function _ => .functionBody
  | .tryBody _ => .tryBody

end Opening

/-- The node that ends a body of a kind. -/
def FrameKind.endNode : FrameKind → Node
  | .tryBody => .tryEnd
  | .functionBody => .functionEnd

/-- The part of a node in the nesting. -/
inductive Role where
  | opens (start : Opening)
  | closes (kind : FrameKind)
  | throws (construct : Construct)

def Node.role : Node → Role
  | .functionStart contract => .opens (.function contract)
  | .functionEnd => .closes .functionBody
  | .tryStart clauses => .opens (.tryBody clauses)
  | .tryEnd => .closes .tryBody
  | .throwing construct => .throws construct

@[simp] theorem Opening.role_node (start : Opening) : start.node.role = .opens start := by
  cases start <;> rfl

@[simp] theorem FrameKind.role_endNode (kind : FrameKind) : kind.endNode.role = .closes kind := by
  cases kind <;> rfl

/-- The node that plays a part. -/
def Role.node : Role → Node
  | .opens start => start.node
  | .closes kind => kind.endNode
  | .throws construct => .throwing construct

theorem Node.eq_node_of_role {node : Node} {role : Role} (h : node.role = role) :
    node = role.node := by
  subst h
  cases node <;> rfl

/-! ## Open bodies -/

/-- A body that has begun, with the nodes behind its start. -/
structure OpenBody where
  start : Opening
  inner : List (Node × Nat)

/-- The body with more nodes in it. -/
def OpenBody.extend (more : List (Node × Nat)) (b : OpenBody) : OpenBody :=
  { b with inner := b.inner ++ more }

/-- The number of ends among nodes that no start among them matches. -/
def unmatchedEnds : List (Node × Nat) → Nat
  | [] => 0
  | node :: rest =>
    match node.1.role with
    | .opens _ => unmatchedEnds rest - 1
    | .closes _ => unmatchedEnds rest + 1
    | .throws _ => unmatchedEnds rest

/-- The bodies that are open after nodes, the innermost first: those whose start is followed by
    nodes that leave no end unmatched. -/
def openBodies : List (Node × Nat) → List OpenBody
  | [] => []
  | node :: rest =>
    match node.1.role with
    | .opens start =>
      if unmatchedEnds rest = 0 then openBodies rest ++ [⟨start, rest⟩] else openBodies rest
    | .closes _ => openBodies rest
    | .throws _ => openBodies rest

/-- The starts that are open after nodes, the innermost first. -/
def openings (nodes : List (Node × Nat)) : List Opening := (openBodies nodes).map (·.start)

/-- The kinds of the bodies that are open after nodes, the innermost first. -/
def openKinds (nodes : List (Node × Nat)) : List FrameKind := (openings nodes).map Opening.kind

/-- The innermost function among openings. -/
def innermostFunction? : List Opening → Option Contract
  | [] => none
  | .function contract :: _ => some contract
  | .tryBody _ :: rest => innermostFunction? rest

/-- The try bodies among openings that are inside the innermost function. -/
def innermostTries : List Opening → List (List CatchClause)
  | [] => []
  | .function _ :: _ => []
  | .tryBody clauses :: rest => clauses :: innermostTries rest

/-- The function that the next node stands in, if it stands in one. -/
def enclosingFunction? (nodes : List (Node × Nat)) : Option Contract :=
  innermostFunction? (openings nodes)

/-- The try bodies that the next node stands in, up to the function around it. -/
def enclosingTries (nodes : List (Node × Nat)) : List (List CatchClause) :=
  innermostTries (openings nodes)

/-- An end among later nodes that these leave unmatched closes a body that is open before them. -/
theorem unmatchedEnds_append (xs ys : List (Node × Nat)) :
    unmatchedEnds (xs ++ ys) = unmatchedEnds xs + (unmatchedEnds ys - (openBodies xs).length) := by
  induction xs with
  | nil => simp [unmatchedEnds, openBodies]
  | cons node rest ih =>
    rw [List.cons_append, unmatchedEnds, unmatchedEnds, openBodies, ih]
    cases node.1.role with
    | opens start =>
      by_cases h : unmatchedEnds rest = 0
      · simp only [if_pos h, List.length_append, List.length_singleton]
        omega
      · simp only [if_neg h]
        omega
    | closes kind => simp only; omega
    | throws construct => rfl

/-- Later nodes open bodies of their own, close some of the innermost ones before them, and go on in
    the bodies that are left. -/
theorem openBodies_append (xs ys : List (Node × Nat)) :
    openBodies (xs ++ ys)
      = openBodies ys ++ ((openBodies xs).drop (unmatchedEnds ys)).map (OpenBody.extend ys) := by
  induction xs with
  | nil => simp [openBodies]
  | cons node rest ih =>
    rw [List.cons_append, openBodies, openBodies, ih]
    cases node.1.role with
    | closes kind => rfl
    | throws construct => rfl
    | opens start =>
      simp only [unmatchedEnds_append]
      by_cases h : unmatchedEnds rest = 0
      · by_cases hle : unmatchedEnds ys ≤ (openBodies rest).length
        · rw [if_pos (by omega), if_pos h, List.drop_append_of_le_length hle]
          simp [OpenBody.extend]
        · -- the later nodes close this body too, so nothing before them is left
          have hall : (openBodies rest ++ [OpenBody.mk start rest]).length ≤ unmatchedEnds ys := by
            rw [List.length_append, List.length_singleton]
            omega
          rw [if_neg (by omega), if_pos h, List.drop_eq_nil_of_le (by omega),
            List.drop_eq_nil_of_le hall]
      · rw [if_neg (by omega), if_neg h]

/-- Behind a start and further nodes, the bodies that these leave open come first. If they leave no
    end unmatched, the body that starts there is open, and so are all around it. Otherwise their
    first unmatched end closes it. -/
theorem openBodies_start (before : List (Node × Nat)) (start : Opening) (line : Nat)
    (inner : List (Node × Nat)) :
    openBodies (before ++ (start.node, line) :: inner)
      = openBodies inner ++
          if unmatchedEnds inner = 0 then
            ⟨start, inner⟩ ::
              (openBodies before).map (OpenBody.extend ((start.node, line) :: inner))
          else
            ((openBodies before).drop (unmatchedEnds inner - 1)).map
              (OpenBody.extend ((start.node, line) :: inner)) := by
  have hends : unmatchedEnds ((start.node, line) :: inner) = unmatchedEnds inner - 1 := by
    simp [unmatchedEnds]
  rw [openBodies_append, hends]
  by_cases h : unmatchedEnds inner = 0
  · simp [openBodies, h]
  · simp [openBodies, h]

theorem openings_start (before : List (Node × Nat)) (start : Opening) (line : Nat)
    (inner : List (Node × Nat)) :
    openings (before ++ (start.node, line) :: inner)
      = openings inner ++
          if unmatchedEnds inner = 0 then start :: openings before
          else (openings before).drop (unmatchedEnds inner - 1) := by
  have hextend (more : List (Node × Nat)) (bodies : List OpenBody) :
      (bodies.map (OpenBody.extend more)).map (·.start) = bodies.map (·.start) := by
    rw [List.map_map]
    rfl
  rw [openings, openBodies_start, List.map_append]
  split
  · rw [List.map_cons, hextend]
    rfl
  · rw [hextend, List.map_drop]
    rfl

theorem openBodies_functionStart (before : List (Node × Nat)) (contract : Contract) (line : Nat)
    (inner : List (Node × Nat)) :
    openBodies (before ++ (.functionStart contract, line) :: inner)
      = openBodies inner ++
          if unmatchedEnds inner = 0 then
            ⟨.function contract, inner⟩ ::
              (openBodies before).map (OpenBody.extend ((.functionStart contract, line) :: inner))
          else
            ((openBodies before).drop (unmatchedEnds inner - 1)).map
              (OpenBody.extend ((.functionStart contract, line) :: inner)) :=
  openBodies_start before (.function contract) line inner

theorem openings_functionStart (before : List (Node × Nat)) (contract : Contract) (line : Nat)
    (inner : List (Node × Nat)) :
    openings (before ++ (.functionStart contract, line) :: inner)
      = openings inner ++
          if unmatchedEnds inner = 0 then .function contract :: openings before
          else (openings before).drop (unmatchedEnds inner - 1) :=
  openings_start before (.function contract) line inner

theorem openings_tryStart (before : List (Node × Nat)) (clauses : List CatchClause) (line : Nat)
    (inner : List (Node × Nat)) :
    openings (before ++ (.tryStart clauses, line) :: inner)
      = openings inner ++
          if unmatchedEnds inner = 0 then .tryBody clauses :: openings before
          else (openings before).drop (unmatchedEnds inner - 1) :=
  openings_start before (.tryBody clauses) line inner

/-- What is open inside an open body is open within its own nodes. -/
theorem openBodies_inner {nodes : List (Node × Nat)} {inside outside : List OpenBody} {b : OpenBody}
    (h : openBodies nodes = inside ++ b :: outside) : openBodies b.inner = inside := by
  induction nodes generalizing outside with
  | nil => simp [openBodies] at h
  | cons node rest ih =>
    rw [openBodies] at h
    cases hrole : node.1.role with
    | closes kind => exact ih (by simpa only [hrole] using h)
    | throws construct => exact ih (by simpa only [hrole] using h)
    | opens start =>
      simp only [hrole] at h
      split at h
      · -- `b` is the new outermost body or one of those that `rest` leaves open
        rcases List.eq_nil_or_concat outside with rfl | ⟨others, last, rfl⟩
        · obtain ⟨hinside, hb⟩ := List.append_inj' h rfl
          rw [← List.singleton_inj.1 hb]
          exact hinside
        · rw [List.concat_eq_append, ← List.cons_append, ← List.append_assoc] at h
          exact ih (List.append_inj' h rfl).1
      · exact ih h

/-- An open body holds fewer nodes than stand around it: its start is none of them. -/
theorem inner_length_lt {nodes : List (Node × Nat)} {b : OpenBody} (h : b ∈ openBodies nodes) :
    b.inner.length < nodes.length := by
  induction nodes with
  | nil => simp [openBodies] at h
  | cons node rest ih =>
    rw [openBodies] at h
    have hlater : b ∈ openBodies rest → b.inner.length < (node :: rest).length := by
      intro hb
      rw [List.length_cons]
      exact Nat.lt_succ_of_lt (ih hb)
    cases hrole : node.1.role with
    | closes kind => exact hlater (by simpa only [hrole] using h)
    | throws construct => exact hlater (by simpa only [hrole] using h)
    | opens start =>
      simp only [hrole] at h
      split at h
      · rcases List.mem_append.1 h with hb | hb
        · exact hlater hb
        · rw [List.mem_singleton.1 hb, List.length_cons]
          exact Nat.lt_succ_self _
      · exact hlater h

/-! ### What is innermost -/

theorem innermostFunction?_append (inside outside : List Opening) :
    innermostFunction? (inside ++ outside)
      = (innermostFunction? inside).or (innermostFunction? outside) := by
  induction inside with
  | nil => rfl
  | cons o rest ih =>
    cases o with
    | function contract => rfl
    | tryBody clauses => exact ih

/-- The try bodies outside count as long as no function is open inside. -/
theorem innermostTries_append (inside outside : List Opening) :
    innermostTries (inside ++ outside)
      = innermostTries inside ++
          if innermostFunction? inside = none then innermostTries outside else [] := by
  induction inside with
  | nil => rfl
  | cons o rest ih =>
    cases o with
    | function contract => rfl
    | tryBody clauses =>
      rw [List.cons_append, innermostTries, ih]
      rfl

theorem innermostFunction?_append_function (inside outside : List Opening) (contract : Contract) :
    innermostFunction? (inside ++ .function contract :: outside)
      = some ((innermostFunction? inside).getD contract) := by
  rw [innermostFunction?_append]
  cases innermostFunction? inside <;> rfl

theorem innermostTries_append_function (inside outside : List Opening) (contract : Contract) :
    innermostTries (inside ++ .function contract :: outside) = innermostTries inside := by
  simp [innermostTries_append, innermostTries]

/-- Where no function is open, all openings are try bodies. -/
theorem mem_innermostTries {opened : List Opening} (h : innermostFunction? opened = none)
    {o : Opening} (ho : o ∈ opened) :
    ∃ clauses, o = .tryBody clauses ∧ clauses ∈ innermostTries opened := by
  induction opened with
  | nil => cases ho
  | cons first rest ih =>
    cases first with
    | function contract => cases h
    | tryBody clauses =>
      rcases List.mem_cons.1 ho with rfl | hrest
      · exact ⟨clauses, rfl, List.mem_cons_self⟩
      · obtain ⟨others, heq, hmem⟩ := ih h hrest
        exact ⟨others, heq, List.mem_cons_of_mem _ hmem⟩

/-! ### The function around a node -/

/-- Behind the start of a body and these nodes of it, the body is open and no function within it. -/
def DirectlyInside (inner : List (Node × Nat)) : Prop :=
  unmatchedEnds inner = 0 ∧ enclosingFunction? inner = none

instance (inner : List (Node × Nat)) : Decidable (DirectlyInside inner) :=
  inferInstanceAs (Decidable (_ ∧ _))

/-- The body of the innermost function among open bodies. -/
def innermostFunctionBody? (bodies : List OpenBody) : Option OpenBody :=
  bodies.find? fun b => b.start.kind == .functionBody

/-- The position of the start of the function that the next node stands in, if it stands in one. -/
def enclosingFunctionAt? (nodes : List (Node × Nat)) : Option Nat :=
  (innermostFunctionBody? (openBodies nodes)).map fun b => nodes.length - b.inner.length - 1

theorem innermostFunctionBody?_eq_none_iff {bodies : List OpenBody} :
    innermostFunctionBody? bodies = none ↔ innermostFunction? (bodies.map (·.start)) = none := by
  induction bodies with
  | nil => exact ⟨fun _ => rfl, fun _ => rfl⟩
  | cons b rest ih =>
    obtain ⟨start, inner⟩ := b
    cases start with
    | function contract => simp [innermostFunctionBody?, innermostFunction?, Opening.kind]
    | tryBody clauses => exact ih

theorem lt_length_of_enclosingFunctionAt? {nodes : List (Node × Nat)} {i : Nat}
    (h : enclosingFunctionAt? nodes = some i) : i < nodes.length := by
  obtain ⟨b, hb, rfl⟩ := Option.map_eq_some_iff.1 h
  have hlt := inner_length_lt (List.mem_of_find?_eq_some hb)
  omega

/-- A node stands in the function that starts at a position exactly if the nodes in between leave
    that function the innermost one. -/
theorem enclosingFunctionAt?_start (before : List (Node × Nat)) (contract : Contract) (line : Nat)
    (inner : List (Node × Nat)) :
    enclosingFunctionAt? (before ++ (.functionStart contract, line) :: inner) = some before.length
      ↔ DirectlyInside inner := by
  rw [enclosingFunctionAt?, openBodies_functionStart, innermostFunctionBody?, List.find?_append,
    DirectlyInside, enclosingFunction?, openings, ← innermostFunctionBody?_eq_none_iff,
    Option.map_eq_some_iff]
  cases hwithin : innermostFunctionBody? (openBodies inner) with
  | some b =>
    -- the function of `b` starts further in
    have hlt := inner_length_lt (List.mem_of_find?_eq_some hwithin)
    rw [innermostFunctionBody?] at hwithin
    simp only [hwithin, Option.some_or, Option.some.injEq, List.length_append, List.length_cons]
    constructor
    · rintro ⟨b', rfl, hposition⟩
      omega
    · rintro ⟨-, hnone⟩
      cases hnone
  | none =>
    rw [innermostFunctionBody?] at hwithin
    rw [hwithin, Option.none_or]
    by_cases hopen : unmatchedEnds inner = 0
    · rw [if_pos hopen]
      refine ⟨fun _ => ⟨hopen, rfl⟩, fun _ => ⟨⟨.function contract, inner⟩, rfl, ?_⟩⟩
      simp only [List.length_append, List.length_cons]
      omega
    · rw [if_neg hopen]
      constructor
      · rintro ⟨b, hb, hposition⟩
        -- the function of `b` starts further out
        obtain ⟨outer, houter, rfl⟩ := List.mem_map.1 (List.mem_of_find?_eq_some hb)
        have hlt := inner_length_lt (List.mem_of_mem_drop houter)
        simp only [OpenBody.extend, List.length_append, List.length_cons] at hposition
        omega
      · rintro ⟨hends, -⟩
        exact absurd hends hopen

/-- In an open function, a function within it or else that function itself is around the node. -/
theorem enclosingFunction?_start (before : List (Node × Nat)) (contract : Contract) (line : Nat)
    {inner : List (Node × Nat)} (h : unmatchedEnds inner = 0) :
    enclosingFunction? (before ++ (.functionStart contract, line) :: inner)
      = some ((enclosingFunction? inner).getD contract) := by
  rw [enclosingFunction?, openings_functionStart, if_pos h, innermostFunction?_append_function]
  rfl

theorem enclosingTries_start (before : List (Node × Nat)) (contract : Contract) (line : Nat)
    {inner : List (Node × Nat)} (h : unmatchedEnds inner = 0) :
    enclosingTries (before ++ (.functionStart contract, line) :: inner) = enclosingTries inner := by
  rw [enclosingTries, openings_functionStart, if_pos h, innermostTries_append_function]
  rfl

theorem enclosingFunction?_tryStart (before : List (Node × Nat)) (clauses : List CatchClause)
    (line : Nat) {inner : List (Node × Nat)} (h : unmatchedEnds inner = 0) :
    enclosingFunction? (before ++ (.tryStart clauses, line) :: inner)
      = (enclosingFunction? inner).or (enclosingFunction? before) := by
  rw [enclosingFunction?, openings_tryStart, if_pos h, innermostFunction?_append]
  rfl

/-- In an open try, the try bodies within it, the try itself and those outside are around the node,
    as far as no function stands between. -/
theorem enclosingTries_tryStart (before : List (Node × Nat)) (clauses : List CatchClause)
    (line : Nat) {inner : List (Node × Nat)} (h : unmatchedEnds inner = 0) :
    enclosingTries (before ++ (.tryStart clauses, line) :: inner)
      = enclosingTries inner ++
          if enclosingFunction? inner = none then clauses :: enclosingTries before else [] := by
  rw [enclosingTries, openings_tryStart, if_pos h, innermostTries_append]
  rfl

def Node.isThrowing : Node → Bool
  | .throwing _ => true
  | _ => false

theorem Node.isThrowing_iff {node : Node} :
    node.isThrowing = true ↔ ∃ construct, node = .throwing construct := by
  cases node <;> simp [Node.isThrowing]

/-! ### Nodes by their place -/

/-- Whether the node at position `j` passes a test, and `place?` finds position `i` for the nodes
    before it. -/
def isPlaced (test : Node → Bool) (place? : List (Node × Nat) → Option Nat)
    (nodes : List (Node × Nat)) (i j : Nat) : Bool :=
  (nodes[j]?.any fun node => test node.1) && place? (nodes.take j) == some i

section Placed

variable {test : Node → Bool} {place? : List (Node × Nat) → Option Nat}

theorem isPlaced_append_cons (before after : List (Node × Nat)) (node : Node × Nat) (i : Nat) :
    isPlaced test place? (before ++ node :: after) i before.length
      = (test node.1 && place? before == some i) := by
  simp [isPlaced]

theorem isPlaced_behind (before : List (Node × Nat)) (start : Node × Nat)
    (inner : List (Node × Nat)) (node : Node × Nat) (after : List (Node × Nat)) (i : Nat) :
    isPlaced test place? (before ++ start :: (inner ++ node :: after)) i
        (before.length + (inner.length + 1))
      = (test node.1 && place? (before ++ start :: inner) == some i) := by
  have hplaced := @isPlaced_append_cons test place? (before ++ start :: inner) after node i
  rwa [List.append_assoc, List.cons_append, List.length_append, List.length_cons] at hplaced

theorem lt_of_isPlaced {nodes : List (Node × Nat)} {i j : Nat}
    (hlt : ∀ nodes i, place? nodes = some i → i < nodes.length)
    (h : isPlaced test place? nodes i j = true) : i < j := by
  rw [isPlaced, Bool.and_eq_true, beq_iff_eq] at h
  have hlt := hlt _ _ h.2
  rw [List.length_take] at hlt
  omega

/-- If a place is always before the nodes that have it, these are found behind it. -/
theorem exists_of_isPlaced {before rest : List (Node × Nat)} {start : Node × Nat} {j : Nat}
    (hlt : ∀ nodes i, place? nodes = some i → i < nodes.length)
    (h : isPlaced test place? (before ++ start :: rest) before.length j = true) :
    ∃ inner node after, rest = inner ++ node :: after ∧ j = before.length + (inner.length + 1) ∧
      test node.1 = true ∧ place? (before ++ start :: inner) = some before.length := by
  have hbehind := lt_of_isPlaced hlt h
  obtain ⟨hany, -⟩ := Bool.and_eq_true_iff.1 h
  obtain ⟨node, hnode, -⟩ := (Option.any_eq_true ..).1 hany
  obtain ⟨xs, ys, hsplit, rfl⟩ := exists_append_cons_of_getElem? hnode
  rcases append_cons_cases hsplit with ⟨mid, rfl, rfl⟩ | ⟨rfl, -, -⟩ | ⟨mid, rfl, rfl⟩
  · simp only [List.length_append, List.length_cons] at hbehind
    omega
  · exact absurd hbehind (Nat.lt_irrefl _)
  · rw [List.length_append, List.length_cons] at h ⊢
    rw [isPlaced_behind, Bool.and_eq_true, beq_iff_eq] at h
    exact ⟨mid, node, ys, rfl, rfl, h⟩

end Placed

/-- Whether the node at position `j` throws in the function that starts at position `i`. -/
def throwsIn (nodes : List (Node × Nat)) (i j : Nat) : Bool :=
  (nodes[j]?.any fun node => node.1.isThrowing) && enclosingFunctionAt? (nodes.take j) == some i

theorem throwsIn_eq_isPlaced : throwsIn = isPlaced Node.isThrowing enclosingFunctionAt? := rfl

theorem lt_of_throwsIn {nodes : List (Node × Nat)} {i j : Nat} (h : throwsIn nodes i j = true) :
    i < j :=
  lt_of_isPlaced (fun _ _ => lt_length_of_enclosingFunctionAt?) h

/-- A node behind the start of a function throws in it exactly if it stands directly in it. -/
theorem throwsIn_behind (before : List (Node × Nat)) (contract : Contract) (line : Nat)
    (inner : List (Node × Nat)) (node : Node × Nat) (after : List (Node × Nat)) :
    throwsIn (before ++ (.functionStart contract, line) :: (inner ++ node :: after)) before.length
        (before.length + (inner.length + 1))
      = (node.1.isThrowing && decide (DirectlyInside inner)) := by
  rw [throwsIn_eq_isPlaced, isPlaced_behind, Bool.eq_iff_iff, Bool.and_eq_true, Bool.and_eq_true,
    beq_iff_eq, decide_eq_true_iff, enclosingFunctionAt?_start]

/-- The nodes that throw in a function are found among those behind its start. -/
theorem exists_of_throwsIn {before rest : List (Node × Nat)} {contract : Contract} {line j : Nat}
    (h : throwsIn (before ++ (.functionStart contract, line) :: rest) before.length j = true) :
    ∃ inner construct throwLine after, rest = inner ++ (.throwing construct, throwLine) :: after ∧
      j = before.length + (inner.length + 1) ∧ DirectlyInside inner := by
  obtain ⟨inner, ⟨node, throwLine⟩, after, rfl, rfl, hthrowing, hplace⟩ :=
    exists_of_isPlaced (fun _ _ => lt_length_of_enclosingFunctionAt?) h
  obtain ⟨construct, rfl⟩ := Node.isThrowing_iff.1 hthrowing
  exact ⟨inner, construct, throwLine, after, rfl, rfl,
    (enclosingFunctionAt?_start before contract line inner).1 hplace⟩

/-! ### The end of a body -/

def Node.isEnd : Node → Bool
  | .functionEnd => true
  | .tryEnd => true
  | _ => false

theorem Node.isEnd_iff {node : Node} : node.isEnd = true ↔ ∃ kind, node.role = .closes kind := by
  cases node <;> simp [Node.isEnd, Node.role]

/-- Behind the start of a body and these nodes of it, the body is open and no body within it. -/
def Innermost (inner : List (Node × Nat)) : Prop :=
  unmatchedEnds inner = 0 ∧ openBodies inner = []

/-- The position of the start of the innermost body that is open after nodes, if one is. -/
def innermostBodyAt? (nodes : List (Node × Nat)) : Option Nat :=
  (openBodies nodes).head?.map fun b => nodes.length - b.inner.length - 1

theorem lt_length_of_innermostBodyAt? {nodes : List (Node × Nat)} {i : Nat}
    (h : innermostBodyAt? nodes = some i) : i < nodes.length := by
  obtain ⟨b, hb, rfl⟩ := Option.map_eq_some_iff.1 h
  have hlt := inner_length_lt (List.mem_of_head? hb)
  omega

/-- The body that starts at a position is the innermost one exactly if the nodes in between leave it
    so. -/
theorem innermostBodyAt?_start (before : List (Node × Nat)) (start : Opening) (line : Nat)
    (inner : List (Node × Nat)) :
    innermostBodyAt? (before ++ (start.node, line) :: inner) = some before.length
      ↔ Innermost inner := by
  rw [innermostBodyAt?, openBodies_start, Innermost]
  cases hinner : openBodies inner with
  | cons b rest =>
    -- the body `b` starts further in
    have hlt := inner_length_lt (hinner ▸ List.mem_cons_self : b ∈ openBodies inner)
    simp only [List.cons_append, List.head?_cons, Option.map_some, Option.some.injEq,
      List.length_append, List.length_cons, reduceCtorEq, and_false, iff_false]
    omega
  | nil =>
    by_cases hopen : unmatchedEnds inner = 0
    · simp only [hopen, if_true, List.nil_append, List.head?_cons, Option.map_some,
        Option.some.injEq, List.length_append, List.length_cons, and_self, iff_true]
      omega
    · rw [if_neg hopen, List.nil_append, Option.map_eq_some_iff]
      refine iff_of_false ?_ fun h => hopen h.1
      rintro ⟨b, hb, hposition⟩
      -- the innermost body starts further out
      obtain ⟨outer, houter, rfl⟩ := List.mem_map.1 (List.mem_of_head? hb)
      have hlt := inner_length_lt (List.mem_of_mem_drop houter)
      simp only [OpenBody.extend, List.length_append, List.length_cons] at hposition
      omega

/-- Whether the node at position `j` ends the body that starts at position `i`. -/
def endsBody (nodes : List (Node × Nat)) (i j : Nat) : Bool :=
  isPlaced Node.isEnd innermostBodyAt? nodes i j

theorem lt_of_endsBody {nodes : List (Node × Nat)} {i j : Nat} (h : endsBody nodes i j = true) :
    i < j :=
  lt_of_isPlaced (fun _ _ => lt_length_of_innermostBodyAt?) h

/-- A node behind the start of a body ends it exactly if it is an end and no other body is open. -/
theorem endsBody_behind (before : List (Node × Nat)) (start : Opening) (line : Nat)
    (inner : List (Node × Nat)) (node : Node × Nat) (after : List (Node × Nat)) :
    endsBody (before ++ (start.node, line) :: (inner ++ node :: after)) before.length
        (before.length + (inner.length + 1)) = true
      ↔ node.1.isEnd = true ∧ Innermost inner := by
  rw [endsBody, isPlaced_behind, Bool.and_eq_true, beq_iff_eq, innermostBodyAt?_start]

/-- The end of a body is found among the nodes behind its start. -/
theorem exists_of_endsBody {before rest : List (Node × Nat)} {start : Opening} {line j : Nat}
    (h : endsBody (before ++ (start.node, line) :: rest) before.length j = true) :
    ∃ inner node after, rest = inner ++ node :: after ∧ j = before.length + (inner.length + 1) ∧
      node.1.isEnd = true ∧ Innermost inner := by
  obtain ⟨inner, node, after, rfl, rfl, hend, hplace⟩ :=
    exists_of_isPlaced (fun _ _ => lt_length_of_innermostBodyAt?) h
  exact ⟨inner, node, after, rfl, rfl, hend,
    (innermostBodyAt?_start before start line inner).1 hplace⟩

/-- Behind its end a body is not open any more. -/
theorem unmatchedEnds_behind_end {inner : List (Node × Nat)} (h : openBodies inner = [])
    {node : Node × Nat} (hend : node.1.isEnd = true) (after : List (Node × Nat)) :
    unmatchedEnds (inner ++ node :: after) ≠ 0 := by
  obtain ⟨kind, hrole⟩ := Node.isEnd_iff.1 hend
  rw [unmatchedEnds_append, h, unmatchedEnds, hrole]
  simp

/-- What stands in a body, and is no end, stands before the end of the body. -/
theorem inside_before_end {inner after body behind : List (Node × Nat)} {first last : Node × Nat}
    (hsplit : inner ++ first :: after = body ++ last :: behind) (hinner : unmatchedEnds inner = 0)
    (hfirst : first.1.isEnd = false) (hlast : last.1.isEnd = true) (hbody : openBodies body = []) :
    ∃ mid, body = inner ++ first :: mid := by
  rcases append_cons_cases hsplit with ⟨mid, rfl, -⟩ | ⟨-, rfl, -⟩ | ⟨mid, rfl, -⟩
  · exact absurd hinner (unmatchedEnds_behind_end hbody hlast mid)
  · rw [hfirst] at hlast
    cases hlast
  · exact ⟨mid, rfl⟩

/-- A body has one end. -/
theorem endsBody_unique {before rest : List (Node × Nat)} {start : Opening} {line j k : Nat}
    (hj : endsBody (before ++ (start.node, line) :: rest) before.length j = true)
    (hk : endsBody (before ++ (start.node, line) :: rest) before.length k = true) : j = k := by
  obtain ⟨inner, node, after, rfl, rfl, hend, hinner⟩ := exists_of_endsBody hj
  obtain ⟨body, last, behind, hsplit, rfl, hlast, hbody⟩ := exists_of_endsBody hk
  rcases append_cons_cases hsplit with ⟨mid, rfl, -⟩ | ⟨rfl, -, -⟩ | ⟨mid, rfl, -⟩
  · exact absurd hinner.1 (unmatchedEnds_behind_end hbody.2 hlast mid)
  · rfl
  · exact absurd hbody.1 (unmatchedEnds_behind_end hinner.2 hend mid)

/-! ## Balanced sequences -/

/-- Sequences in which every start has its end and every end its start. -/
inductive Balanced : List (Node × Nat) → Prop where
  | nil : Balanced []
  | throwing {construct : Construct} {line : Nat} {rest : List (Node × Nat)} :
      Balanced rest → Balanced ((.throwing construct, line) :: rest)
  | body {start : Opening} {line endLine : Nat} {inner rest : List (Node × Nat)} :
      Balanced inner → Balanced rest →
        Balanced ((start.node, line) :: (inner ++ (start.kind.endNode, endLine) :: rest))

namespace Balanced

/-- A balanced sequence matches all of its ends and leaves no body open. -/
theorem closed {nodes : List (Node × Nat)} (h : Balanced nodes) :
    unmatchedEnds nodes = 0 ∧ openBodies nodes = [] := by
  induction h with
  | nil => exact ⟨rfl, rfl⟩
  | throwing _ ih => exact ih
  | @body start line endLine inner rest _ _ ihInner ihRest =>
    have hends : unmatchedEnds ((start.kind.endNode, endLine) :: rest) = 1 := by
      simp [unmatchedEnds, ihRest.1]
    have hopen : openBodies ((start.kind.endNode, endLine) :: rest) = [] := by
      simp [openBodies, ihRest.2]
    constructor
    · rw [unmatchedEnds, Opening.role_node, unmatchedEnds_append, hends, ihInner.1, ihInner.2]
      rfl
    · rw [openBodies, Opening.role_node, openBodies_append, unmatchedEnds_append, hends, hopen,
        ihInner.1, ihInner.2]
      rfl

/-- Behind a start and a balanced sequence, the innermost open body is the one that starts there. -/
theorem openBodies_behind {inner : List (Node × Nat)} (h : Balanced inner)
    (before : List (Node × Nat)) (start : Opening) (line : Nat) :
    openBodies (before ++ (start.node, line) :: inner)
      = ⟨start, inner⟩ ::
          (openBodies before).map (OpenBody.extend ((start.node, line) :: inner)) := by
  rw [openBodies_start, if_pos h.closed.1, h.closed.2, List.nil_append]

theorem append {xs ys : List (Node × Nat)} (hxs : Balanced xs) (hys : Balanced ys) :
    Balanced (xs ++ ys) := by
  induction hxs with
  | nil => exact hys
  | throwing _ ih => exact .throwing ih
  | body hinner _ _ ihRest =>
    rw [List.cons_append, List.append_assoc, List.cons_append]
    exact .body hinner ihRest

end Balanced

/-- Nodes that end all of some open bodies, the innermost first, and are balanced otherwise. -/
def EndsAll : List FrameKind → List (Node × Nat) → Prop
  | [], nodes => Balanced nodes
  | kind :: outer, nodes =>
    ∃ inner line after, Balanced inner ∧ nodes = inner ++ (kind.endNode, line) :: after ∧
      EndsAll outer after

/-- Balanced nodes may come first: they stand in the innermost of the bodies that end. -/
theorem EndsAll.prepend {kinds : List FrameKind} {xs ys : List (Node × Nat)} (hxs : Balanced xs)
    (hys : EndsAll kinds ys) : EndsAll kinds (xs ++ ys) := by
  cases kinds with
  | nil => exact hxs.append hys
  | cons kind outer =>
    obtain ⟨inner, line, after, hinner, rfl, hafter⟩ := hys
    exact ⟨xs ++ inner, line, after, hxs.append hinner, (List.append_assoc ..).symm, hafter⟩

end ExceptionFlow
