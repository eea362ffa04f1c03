import Mathlib.Data.List.Basic
import ExceptionFlow.Checker
import ExceptionFlow.Registry

set_option autoImplicit false

/-! # Messages and the names in them

A message is its template with the names in the places. The template is filled one argument after
the other, so that a name which is in already is searched for the places of those that follow.
`Template.fillAtOnce` is the filling that one has in mind: the template is read once, and the names
are put in as they are.

Both agree on one name at a time. In a template whose places stand apart (`Template.isSeparated`),
filling goes on in each place on its own (`Template.fillFrom_flatMap`): it is filling at once, with
every argument filled by those behind it (`Template.fill_eq_fillAtOnce`). All templates are of this
kind, and none has more than two places, so a message says something else than its names exactly if
the first of two names has the place of the second in it (`Checker.messages_verbatim_iff`). -/

namespace ExceptionFlow

namespace Template

/-! ## Filling at once -/

/-- A part of a template: a character as it is, or the place of an argument. -/
inductive Piece where
  | char (c : Char)
  | place (i : Nat)
  deriving DecidableEq

/-- The pieces of a template for `n` arguments. As in `replace`, `skip` counts the characters of a
    place that are still to be passed over. -/
def pieces (n : Nat) : Nat → List Char → List Piece
  | _, [] => []
  | skip + 1, _ :: rest => pieces n skip rest
  | 0, c :: rest =>
    match (List.range n).find? fun i => (place i).isPrefixOf (c :: rest) with
    | some i => .place i :: pieces n ((place i).length - 1) rest
    | none => .char c :: pieces n 0 rest

/-- The text of a piece if `filling` gives the texts of the places. -/
def Piece.text (filling : Nat → List Char) : Piece → List Char
  | char c => [c]
  | place i => filling i

/-- Fill all places of a template at once, without looking into the arguments. -/
def fillAtOnce (template : String) (args : List String) : String :=
  String.ofList ((pieces args.length 0 template.toList).flatMap
    (Piece.text fun i => (args.getD i "").toList))

/-! ## Replacing -/

variable {mark filler text rest : List Char} {c : Char} {skip i k : Nat}

theorem replace_nil : replace mark filler skip [] = [] := by
  cases skip <;> rfl

/-- An occurrence of the mark does not reach into a text that begins with another character. -/
theorem isPrefix_append_iff (hrest : ∀ c ∈ rest.head?, c ∉ mark) :
    mark <+: text ++ rest ↔ mark <+: text := by
  constructor
  · intro h
    rcases Nat.le_total mark.length text.length with hle | hle
    · exact List.prefix_of_prefix_length_le h (List.prefix_append text rest) hle
    · obtain ⟨more, rfl⟩ := List.prefix_of_prefix_length_le (List.prefix_append text rest) h hle
      have hmore : more <+: rest := (List.prefix_append_right_inj text).1 h
      cases more with
      | nil => simp
      | cons c more =>
        obtain ⟨behind, rfl⟩ := hmore
        exact absurd (by simp) (hrest c rfl)
  · intro h
    exact h.trans (List.prefix_append text rest)

/-- So the two texts can be searched one after the other. -/
theorem replace_append (hrest : ∀ c ∈ rest.head?, c ∉ mark) (hskip : skip ≤ text.length) :
    replace mark filler skip (text ++ rest)
      = replace mark filler skip text ++ replace mark filler 0 rest := by
  induction text generalizing skip with
  | nil =>
    obtain rfl : skip = 0 := Nat.le_zero.1 hskip
    rfl
  | cons c text ih =>
    cases skip with
    | succ skip => exact ih (Nat.le_of_succ_le_succ hskip)
    | zero =>
      have hbegins : mark.isPrefixOf (c :: (text ++ rest)) = mark.isPrefixOf (c :: text) := by
        rw [Bool.eq_iff_iff, List.isPrefixOf_iff_prefix, List.isPrefixOf_iff_prefix,
          ← List.cons_append, isPrefix_append_iff hrest]
      rw [List.cons_append, replace, replace, hbegins]
      split
      · rename_i hmark
        have hle : mark.length ≤ text.length + 1 := (List.isPrefixOf_iff_prefix.1 hmark).length_le
        rw [ih (by omega), List.append_assoc]
      · rw [ih (Nat.zero_le _), List.cons_append]

theorem replace_cons_of_ne (hmark : mark.head? ≠ some c) (hne : mark ≠ []) :
    replace mark filler 0 (c :: text) = c :: replace mark filler 0 text := by
  have hbegins : ¬ mark.isPrefixOf (c :: text) = true := by
    cases mark with
    | nil => exact absurd rfl hne
    | cons m mark =>
      rw [List.isPrefixOf_iff_prefix, List.cons_prefix_cons]
      rintro ⟨rfl, -⟩
      exact hmark rfl
  rw [replace, if_neg hbegins]

/-- A mark is replaced by itself. -/
theorem replace_self (hne : mark ≠ []) : replace mark mark skip text = text.drop skip := by
  induction text generalizing skip with
  | nil => rw [replace_nil, List.drop_nil]
  | cons c text ih =>
    cases skip with
    | succ skip => exact ih
    | zero =>
      rw [replace, List.drop_zero]
      split
      · rename_i hmark
        obtain ⟨more, hmore⟩ := List.isPrefixOf_iff_prefix.1 hmark
        rw [ih]
        cases mark with
        | nil => exact absurd rfl hne
        | cons m mark =>
          obtain ⟨rfl, rfl⟩ := List.cons.inj hmore
          simp
      · rw [ih, List.drop_zero]

/-- Every replacement changes the length by the same number. -/
theorem length_replace (hne : mark ≠ []) (hskip : skip ≤ text.length) :
    ∃ count, (replace mark filler skip text).length + skip + count * mark.length
      = text.length + count * filler.length := by
  induction text generalizing skip with
  | nil =>
    obtain rfl : skip = 0 := Nat.le_zero.1 hskip
    exact ⟨0, by simp [replace]⟩
  | cons c text ih =>
    rw [List.length_cons] at hskip ⊢
    cases skip with
    | succ skip =>
      obtain ⟨count, hcount⟩ := ih (Nat.le_of_succ_le_succ hskip)
      exact ⟨count, by rw [replace]; omega⟩
    | zero =>
      rw [replace]
      split
      · rename_i hmark
        have hle : mark.length ≤ text.length + 1 := (List.isPrefixOf_iff_prefix.1 hmark).length_le
        have hpos : 0 < mark.length := List.length_pos_iff.2 hne
        obtain ⟨count, hcount⟩ := @ih (mark.length - 1) (by omega)
        refine ⟨count + 1, ?_⟩
        rw [List.length_append, Nat.succ_mul, Nat.succ_mul]
        omega
      · obtain ⟨count, hcount⟩ := ih (Nat.zero_le _)
        exact ⟨count, by rw [List.length_cons]; omega⟩

/-- If a mark at the beginning of a text is replaced without a change, then by itself. -/
theorem eq_of_replace_eq_self (hne : mark ≠ []) (hmark : mark <+: text)
    (h : replace mark filler 0 text = text) : filler = mark := by
  cases text with
  | nil => exact absurd (List.prefix_nil.1 hmark) hne
  | cons c rest =>
    rw [replace, if_pos (List.isPrefixOf_iff_prefix.2 hmark)] at h
    have hle : mark.length ≤ rest.length + 1 := hmark.length_le
    have hpos : 0 < mark.length := List.length_pos_iff.2 hne
    obtain ⟨count, hcount⟩ :=
      @length_replace mark filler rest (mark.length - 1) hne (by omega)
    have hlength := congrArg List.length h
    rw [List.length_append, List.length_cons] at hlength
    have htimes : (count + 1) * filler.length = (count + 1) * mark.length := by
      rw [Nat.succ_mul, Nat.succ_mul]
      omega
    have hsame : filler.length = mark.length :=
      Nat.eq_of_mul_eq_mul_left (Nat.succ_pos count) htimes
    have hfiller : filler <+: c :: rest := ⟨_, h⟩
    exact (List.prefix_of_prefix_length_le hfiller hmark (Nat.le_of_eq hsame)).eq_of_length hsame

/-- A text stays the same if the mark is not in it, or is replaced by itself. -/
theorem replace_eq_self_iff (hne : mark ≠ []) :
    replace mark filler 0 text = text ↔ filler = mark ∨ ¬ mark <:+: text := by
  constructor
  · intro h
    induction text with
    | nil => simp [hne]
    | cons c text ih =>
      by_cases hmark : mark <+: c :: text
      · exact .inl (eq_of_replace_eq_self hne hmark h)
      · rw [replace, if_neg (mt List.isPrefixOf_iff_prefix.1 hmark)] at h
        rw [List.infix_cons_iff]
        refine (ih (List.cons.inj h).2).imp_right ?_
        rintro hnot (hfront | hwithin)
        · exact hmark hfront
        · exact hnot hwithin
  · rintro (rfl | hnot)
    · exact replace_self hne
    · induction text with
      | nil => rfl
      | cons c text ih =>
        rw [List.infix_cons_iff, not_or] at hnot
        rw [replace, if_neg (mt List.isPrefixOf_iff_prefix.1 hnot.1), ih hnot.2]

theorem replace_length : replace mark filler text.length text = [] := by
  induction text with
  | nil => rfl
  | cons c text ih => exact ih

theorem replace_mark (hne : mark ≠ []) : replace mark filler 0 mark = filler := by
  cases mark with
  | nil => exact absurd rfl hne
  | cons c rest =>
    rw [replace, if_pos (List.isPrefixOf_iff_prefix.2 (List.prefix_refl _)), List.length_cons,
      Nat.add_sub_cancel, replace_length, List.append_nil]

/-! ## Places -/

theorem place_ne_nil (i : Nat) : place i ≠ [] := List.cons_ne_nil _ _

/-- The characters that places are made of. -/
def isPlaceChar (c : Char) : Bool := c == '{' || c == '}' || c.isDigit

theorem isPlaceChar_of_mem_place (h : c ∈ place i) : isPlaceChar c = true := by
  rw [place, List.mem_append, List.mem_cons, List.mem_singleton] at h
  rcases h with (rfl | hdigit) | rfl
  · rfl
  · simp [isPlaceChar, Nat.isDigit_of_mem_toDigits (by decide) (by decide) hdigit]
  · rfl

theorem not_mem_toDigits (hc : c.isDigit = false) : c ∉ Nat.toDigits 10 i := by
  intro h
  rw [Nat.isDigit_of_mem_toDigits (by decide) (by decide) h] at hc
  cases hc

/-- No place begins another one, and none stands within another one. -/
theorem eq_of_place_isInfix (h : place k <:+: place i) : k = i := by
  have hbrace : '{' ∉ Nat.toDigits 10 i ++ ['}'] := by
    simp [not_mem_toDigits (show '{'.isDigit = false from rfl)]
  rw [place, place, List.cons_append, List.cons_append, List.infix_cons_iff,
    List.cons_prefix_cons] at h
  rcases h with ⟨-, more, hmore⟩ | hwithin
  · have hclose : '}' ∉ Nat.toDigits 10 i := not_mem_toDigits rfl
    rw [List.append_assoc, List.singleton_append] at hmore
    obtain ⟨hdigits, -⟩ :=
      (List.append_cons_inj_of_notMem hclose List.not_mem_nil).1 hmore.symm
    rw [← @Nat.ofDigitChars_ten_toDigits k, ← @Nat.ofDigitChars_ten_toDigits i, hdigits]
  · exact absurd (hwithin.subset (List.mem_cons_self ..)) hbrace

/-- Filling one place leaves the others. -/
theorem replace_place (filler : List Char) (k i : Nat) :
    replace (place k) filler 0 (place i) = if k = i then filler else place i := by
  split
  · rename_i h
    rw [h, replace_mark (place_ne_nil i)]
  · rename_i h
    exact (replace_eq_self_iff (place_ne_nil k)).2 (.inr (mt eq_of_place_isInfix h))

/-! ## Templates -/

/-- Whether a template goes on with a character that is in no place, if it goes on. -/
def startsPlain : List Piece → Bool
  | [] => true
  | .char c :: _ => !isPlaceChar c
  | .place _ :: _ => false

/-- The places of a template are for `n` arguments and stand apart. -/
def isSeparated (n : Nat) : List Piece → Bool
  | [] => true
  | .char c :: rest => c != '{' && isSeparated n rest
  | .place i :: rest => decide (i < n) && startsPlain rest && isSeparated n rest

variable {n : Nat} {ps : List Piece} {v w : Nat → List Char}

theorem lt_of_separated (h : isSeparated n ps = true) (hi : .place i ∈ ps) : i < n := by
  induction ps with
  | nil => cases hi
  | cons p rest ih =>
    cases p with
    | char c =>
      simp only [isSeparated, Bool.and_eq_true] at h
      simp only [List.mem_cons, reduceCtorEq, false_or] at hi
      exact ih h.2 hi
    | place j =>
      simp only [isSeparated, Bool.and_eq_true, decide_eq_true_eq] at h
      simp only [List.mem_cons, Piece.place.injEq] at hi
      rcases hi with rfl | hi
      · exact h.1.1
      · exact ih h.2 hi

theorem flatMap_text_congr (h : ∀ i, .place i ∈ ps → v i = w i) :
    ps.flatMap (Piece.text v) = ps.flatMap (Piece.text w) := by
  refine List.flatMap_congr ?_
  intro p hp
  cases p with
  | char c => rfl
  | place i => exact h i hp

theorem not_mem_place_of_startsPlain (h : startsPlain ps = true) :
    ∀ c ∈ (ps.flatMap (Piece.text v)).head?, c ∉ place k := by
  intro c hc hmem
  cases ps with
  | nil => simp at hc
  | cons p rest =>
    cases p with
    | place i => cases h
    | char d =>
      obtain rfl : d = c := by simpa [Piece.text] using hc
      rw [startsPlain, isPlaceChar_of_mem_place hmem] at h
      cases h

/-- In a template whose places stand apart, each is searched on its own. -/
theorem replace_flatMap (h : isSeparated n ps = true) (k : Nat) (filler : List Char) :
    replace (place k) filler 0 (ps.flatMap (Piece.text v))
      = ps.flatMap (Piece.text fun i => replace (place k) filler 0 (v i)) := by
  induction ps with
  | nil => rfl
  | cons p rest ih =>
    rw [List.flatMap_cons, List.flatMap_cons]
    cases p with
    | char c =>
      simp only [isSeparated, Bool.and_eq_true, bne_iff_ne] at h
      have hhead : (place k).head? ≠ some c := fun he => h.1 (Option.some.inj he).symm
      rw [Piece.text, List.singleton_append, replace_cons_of_ne hhead (place_ne_nil k), ih h.2]
      rfl
    | place i =>
      simp only [isSeparated, Bool.and_eq_true] at h
      rw [Piece.text, replace_append (not_mem_place_of_startsPlain h.1.2) (Nat.zero_le _), ih h.2]
      rfl

/-- So each is filled on its own. -/
theorem fillFrom_flatMap (h : isSeparated n ps = true) (k : Nat) (args : List String) :
    fillFrom k (ps.flatMap (Piece.text v)) args
      = ps.flatMap (Piece.text fun i => fillFrom k (v i) args) := by
  induction args generalizing k v with
  | nil => rfl
  | cons arg rest ih => rw [fillFrom, replace_flatMap h, ih]; rfl

/-- The arguments from the `i`-th on, each filled by those behind it. -/
def rescanned (i : Nat) : List String → List String
  | [] => []
  | arg :: args => String.ofList (fillFrom (i + 1) arg.toList args) :: rescanned (i + 1) args

theorem length_rescanned (args : List String) : (rescanned k args).length = args.length := by
  induction args generalizing k with
  | nil => rfl
  | cons arg rest ih => rw [rescanned, List.length_cons, List.length_cons, ih]

/-- A place is filled by its argument, which is filled by those behind it. -/
theorem fillFrom_place {args : List String} (hi : i < args.length) :
    fillFrom k (place (k + i)) args = ((rescanned k args).getD i "").toList := by
  induction args generalizing k i with
  | nil => cases hi
  | cons arg rest ih =>
    rw [fillFrom, replace_place, rescanned]
    cases i with
    | zero => simp
    | succ i =>
      have hne : ¬ k = k + (i + 1) := by omega
      rw [if_neg hne, List.getD_cons_succ, ← ih (Nat.lt_of_succ_lt_succ hi)]
      congr 2
      omega

/-- **Filling one after the other is filling at once, with every argument filled by those behind
    it.** -/
theorem fill_eq_fillAtOnce {template : String} {args : List String}
    (hread : (pieces args.length 0 template.toList).flatMap (Piece.text place) = template.toList)
    (hapart : isSeparated args.length (pieces args.length 0 template.toList) = true) :
    fill template args = fillAtOnce template (rescanned 0 args) := by
  rw [fill, fillAtOnce, length_rescanned]
  nth_rewrite 1 [← hread]
  rw [fillFrom_flatMap hapart]
  congr 1
  refine flatMap_text_congr ?_
  intro i hi
  rw [← fillFrom_place (lt_of_separated hapart hi), Nat.zero_add]

end Template

/-! ## Messages -/

/-- The number of classes that the message of a code names. -/
def Code.arity : Code → Nat
  | alreadyCaught => 2
  | unreachableCatch => 2
  | _ => 1

/-- A diagnostic names as many classes as its message has places. -/
def Diagnostic.Fits (d : Diagnostic) : Prop := d.names.length = d.code.arity

open Template

theorem Code.separated_template (code : Code) :
    (pieces code.arity 0 code.template.toList).flatMap (Piece.text place) = code.template.toList ∧
    isSeparated code.arity (pieces code.arity 0 code.template.toList) = true := by
  cases code <;> decide +kernel

/-- A message that names two classes begins with the first and names it nowhere else. -/
theorem Code.exists_pieces_of_arity_two {code : Code} (h : code.arity = 2) :
    ∃ rest, pieces 2 0 code.template.toList = .place 0 :: rest ∧ .place 0 ∉ rest := by
  have hhead : (pieces 2 0 code.template.toList).head? = some (.place 0) ∧
      .place 0 ∉ (pieces 2 0 code.template.toList).tail := by
    cases code with
    | alreadyCaught => decide +kernel
    | unreachableCatch => decide +kernel
    | _ => cases h
  exact ⟨_, (List.cons_head?_tail hhead.1).symm, hhead.2⟩

namespace Diagnostic

variable {d : Diagnostic}

theorem text_eq_fillAtOnce (h : d.Fits) :
    d.text = fillAtOnce d.code.template (rescanned 0 (d.names.map (·.text))) := by
  obtain ⟨hread, hapart⟩ := d.code.separated_template
  have hlength : (d.names.map (·.text)).length = d.code.arity := by rw [List.length_map, h]
  rw [← hlength] at hread hapart
  exact fill_eq_fillAtOnce hread hapart

theorem fillAtOnce_left_inj {code : Code} (h : code.arity = 2) {first other second : String} :
    fillAtOnce code.template [first, second] = fillAtOnce code.template [other, second]
      ↔ first = other := by
  obtain ⟨rest, hpieces, hnot⟩ := code.exists_pieces_of_arity_two h
  have htail : rest.flatMap (Piece.text fun i => ([first, second].getD i "").toList)
      = rest.flatMap (Piece.text fun i => ([other, second].getD i "").toList) := by
    refine flatMap_text_congr ?_
    intro i hi
    cases i with
    | zero => exact absurd hi hnot
    | succ i => rfl
  have hfill (name : String) : fillAtOnce code.template [name, second]
      = String.ofList (name.toList
          ++ rest.flatMap (Piece.text fun i => ([name, second].getD i "").toList)) := by
    have hlength : [name, second].length = 2 := rfl
    rw [fillAtOnce, hlength, hpieces, List.flatMap_cons]
    rfl
  rw [hfill, hfill, htail, String.ofList_inj, List.append_left_inj, String.toList_inj]

/-- The message gives the names as they are, unless the first of two has the place of the second in
    it and the second is another text than this place. -/
theorem text_verbatim_iff (h : d.Fits) :
    d.text = fillAtOnce d.code.template (d.names.map (·.text))
      ↔ ∀ first second, d.names = [first, second] →
          second.text.toList = place 1 ∨ ¬ place 1 <:+: first.text.toList := by
  rw [text_eq_fillAtOnce h]
  obtain ⟨file, line, code, names⟩ := d
  have hbounds : 0 < code.arity ∧ code.arity ≤ 2 := by cases code <;> decide
  change names.length = code.arity at h
  rcases names with _ | ⟨first, _ | ⟨second, _ | ⟨third, more⟩⟩⟩
  · exact absurd h (Nat.ne_of_lt hbounds.1)
  · simp [rescanned, fillFrom]
  · have hrescanned : rescanned 0 [first.text, second.text]
        = [String.ofList (replace (place 1) second.text.toList 0 first.text.toList),
          second.text] := by
      simp [rescanned, fillFrom]
    rw [List.map_cons, List.map_cons, List.map_nil, hrescanned, fillAtOnce_left_inj h.symm,
      ← String.toList_inj, String.toList_ofList, replace_eq_self_iff (place_ne_nil 1)]
    constructor
    · rintro hverbatim _ _ ⟨⟩
      exact hverbatim
    · intro hverbatim
      exact hverbatim first second rfl
  · rw [List.length_cons, List.length_cons, List.length_cons] at h
    omega

end Diagnostic

/-! ## Reports -/

namespace Checker

variable {K : Checker}

theorem fits_of_mem_reports {types : List ClassName} {line : Nat} {code : Code} {d : Diagnostic}
    (hcode : code.arity = 1) (hd : d ∈ types.map fun type => K.report line code [type]) :
    d.Fits := by
  obtain ⟨type, -, rfl⟩ := List.mem_map.1 hd
  exact hcode.symm

theorem fits_pointlessCatch (f : CatchFinding) : (K.pointlessCatch f).Fits := by
  unfold pointlessCatch
  split <;> rfl

theorem fits_of_mem_unusedThrows {body : FunctionBody} {line : Nat} {d : Diagnostic}
    (hd : d ∈ K.unusedThrows body line) : d.Fits := by
  unfold unusedThrows at hd
  split at hd
  · cases hd
  · exact fits_of_mem_reports rfl hd

theorem fits_of_mem_neverThrown {region : TryRegion} {d : Diagnostic}
    (hd : d ∈ K.neverThrown region) : d.Fits := by
  obtain ⟨c, -, hd⟩ := List.mem_flatMap.1 hd
  obtain ⟨e, -, rfl⟩ := List.mem_map.1 hd
  rfl

theorem fits_of_mem_escapes {residual : Residual} {line : Nat} {d : Diagnostic}
    (hd : d ∈ K.escapes residual line) : d.Fits := by
  unfold escapes at hd
  split at hd
  · cases hd
  · exact fits_of_mem_reports rfl hd
  · split at hd
    · exact fits_of_mem_reports rfl hd
    · cases hd

/-- Every node reports diagnostics that fit. -/
theorem fits_of_mem_visit {scope : Scope} {node : Node} {line : Nat} {d : Diagnostic}
    (hd : d ∈ (K.visit scope node line).1.diagnostics) : d.Fits := by
  cases node with
  | functionStart contract =>
    simp only [visit, enterFunction] at hd
    split at hd
    · split at hd
      · cases hd
      · exact fits_of_mem_reports rfl hd
    · exact fits_of_mem_reports rfl hd
  | functionEnd =>
    simp only [visit, exitFunction] at hd
    split at hd
    · exact fits_of_mem_unusedThrows hd
    · cases hd
  | tryStart clauses =>
    obtain ⟨f, -, rfl⟩ := List.mem_map.1 hd
    exact fits_pointlessCatch f
  | tryEnd =>
    simp only [visit, exitTry] at hd
    split at hd
    · exact fits_of_mem_neverThrown hd
    · cases hd
  | throwing construct => exact fits_of_mem_escapes hd

/-- So do all nodes of a unit. -/
theorem fits_of_mem_run {s : State} {nodes : List (Node × Nat)} {d : Diagnostic}
    (hs : ∀ d ∈ s.diagnostics, d.Fits) (hd : d ∈ (K.run s nodes).2.diagnostics) : d.Fits := by
  induction nodes generalizing s with
  | nil => exact hs d hd
  | cons first rest ih =>
    obtain ⟨node, line⟩ := first
    have hnext : ∀ d ∈ (K.step s node line).2.diagnostics, d.Fits := by
      intro d hd
      rcases List.mem_append.1 hd with hbefore | hnow
      · exact hs d hbefore
      · exact fits_of_mem_visit hnow
    rw [run] at hd
    split at hd
    · rename_i found next hstep
      rw [hstep] at hnext
      exact ih hnext hd
    · rename_i e next hstep
      rw [hstep] at hnext
      exact hnext d hd

/-- **Which messages give their names as they are.** Every message of a checked unit is its template
    with all places filled at once, where each name is first filled by the names behind it. So it is
    the template filled with the very names, unless it names two classes, the first name has the
    place of the second in it, and the second is not this place itself. -/
theorem messages_verbatim_iff (K : Checker) (nodes : List (Node × Nat)) {d : Diagnostic}
    (hd : d ∈ (K.run .start nodes).2.diagnostics) :
    d.text = fillAtOnce d.code.template (rescanned 0 (d.names.map (·.text))) ∧
    (d.text = fillAtOnce d.code.template (d.names.map (·.text))
      ↔ ∀ first second, d.names = [first, second] →
          second.text.toList = place 1 ∨ ¬ place 1 <:+: first.text.toList) := by
  have hfits : d.Fits := fits_of_mem_run (fun _ hnone => absurd hnone List.not_mem_nil) hd
  exact ⟨Diagnostic.text_eq_fillAtOnce hfits, Diagnostic.text_verbatim_iff hfits⟩

/-- Two classes, one of them named like a place. -/
def bracedRegistry : Registry :=
  (Registry.empty.addClass (.bare ⟨"Base"⟩ .concrete)).addClass
    ((ClassDecl.bare ⟨"\x7b1\x7d"⟩ .concrete).extending ⟨"Base"⟩)

def bracedChecker : Checker :=
  ⟨bracedRegistry.hierarchy, "unit", {}, .default, .ofOptions {}, [], Refinement.standard⟩

/-- A try whose first clause names both classes, and whose second names them again. -/
def bracedNodes : List (Node × Nat) :=
  [(.tryStart [⟨[⟨"\x7b1\x7d"⟩, ⟨"Base"⟩], 2⟩, ⟨[⟨"Base"⟩], 3⟩], 1), (.tryEnd, 4)]

/-- The report of the class with the name of a place. -/
def bracedReport : Diagnostic := ⟨"unit", 2, .alreadyCaught, [⟨"\x7b1\x7d"⟩, ⟨"Base"⟩]⟩

/-- The report of the other class. -/
def plainReport : Diagnostic := ⟨"unit", 3, .unreachableCatch, [⟨"Base"⟩, ⟨"Base"⟩]⟩

/-- In the report of the class with such a name the other one is caught by itself; the report of the
    other one gives its names as they are. -/
theorem messages_verbatim_iff_braced :
    (bracedChecker.run .start bracedNodes).1 = none ∧
    bracedReport ∈ (bracedChecker.run .start bracedNodes).2.diagnostics ∧
    bracedReport.text = "Base is already caught by Base" ∧
    fillAtOnce Code.alreadyCaught.template ["\x7b1\x7d", "Base"]
      = "\x7b1\x7d is already caught by Base" ∧
    bracedReport.text
      ≠ fillAtOnce bracedReport.code.template (bracedReport.names.map (·.text)) ∧
    plainReport ∈ (bracedChecker.run .start bracedNodes).2.diagnostics ∧
    plainReport.text = fillAtOnce plainReport.code.template (plainReport.names.map (·.text)) := by
  have hbraced : bracedReport ∈ (bracedChecker.run .start bracedNodes).2.diagnostics := by
    decide +kernel
  have hplain : plainReport ∈ (bracedChecker.run .start bracedNodes).2.diagnostics := by
    decide +kernel
  refine ⟨by decide +kernel, hbraced, by decide +kernel, by decide +kernel, ?_, hplain, ?_⟩
  · intro hverbatim
    have hnames := (messages_verbatim_iff bracedChecker bracedNodes hbraced).2.1 hverbatim _ _ rfl
    exact absurd hnames (by decide +kernel)
  · refine (messages_verbatim_iff bracedChecker bracedNodes hplain).2.2 ?_
    rintro _ _ ⟨⟩
    exact .inr (by decide +kernel)

end Checker

end ExceptionFlow
