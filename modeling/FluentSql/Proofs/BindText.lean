import FluentSql.Connection.Binds

/-!
# Prepared statements, place by place

A prepared statement is made in two walks: colons are escaped first, and the
escaped text is scanned for placeholders. Here it is described by the places
of the original text alone. The escapes go in front of colons only, where the
scanner is never in the middle of an escape, so the two scans stay in step.
-/

set_option autoImplicit false

namespace FluentSql.Connection

def before (cs : List Char) (p : Nat) : Option Char :=
  (cs.take p).getLast?

def isBindColon (cs : List Char) (p : Nat) : Bool :=
  cs[p]? == some ':' && cs[p + 1]?.any Text.isWord
    && !(before cs p).any fun c => c == ':' || c == '\\' || Text.isWord c

def isPlaceholderAt (cs : List Char) (p : Nat) : Bool :=
  (Scan.marks cs)[p]?.any Scan.isPlaceholder

def placeholdersBefore (cs : List Char) (p : Nat) : Nat :=
  Scan.countMarks ((Scan.marks cs).take p)

/-- What stands in a prepared statement for a place of the original text. -/
def placed (cs : List Char) (p : Nat) : List Char :=
  if isPlaceholderAt cs p then ':' :: (bindName (placeholdersBefore cs p)).toList
  else if isBindColon cs p then ['\\', ':']
  else cs[p]?.toList

def rewritten (cs : List Char) : List Char :=
  (List.range cs.length).flatMap (placed cs)

/-- How an escaped text is read at a place of the original text. -/
def markedAt (cs : List Char) (p : Nat) : List Scan.Mark :=
  if isBindColon cs p then [⟨'\\', true⟩, ⟨':', true⟩] else (Scan.marks cs)[p]?.toList

/-! ## Walks -/

def places {α : Type} (place : List Char → Nat → List α) (passed rest : List Char) : List α :=
  (List.range' passed.length rest.length).flatMap (place (passed ++ rest))

theorem places_cons {α : Type} (place : List Char → Nat → List α) (passed rest : List Char)
    (c : Char) :
    places place passed (c :: rest) =
      place (passed ++ c :: rest) passed.length ++ places place (passed ++ [c]) rest := by
  simp [places, List.range'_succ]

theorem walk_eq {α : Type} (place : List Char → Nat → List α)
    (walk : List Char → List Char → List α) (stop : ∀ passed, walk passed [] = [])
    (step : ∀ passed c rest, walk passed (c :: rest) =
      place (passed ++ c :: rest) passed.length ++ walk (passed ++ [c]) rest)
    (passed rest : List Char) : walk passed rest = places place passed rest := by
  induction rest generalizing passed with
  | nil => simp [stop, places]
  | cons c rest ih => rw [step, ih, places_cons]

theorem places_nil {α : Type} (place : List Char → Nat → List α) (cs : List Char) :
    places place [] cs = (List.range cs.length).flatMap (place cs) := by
  rw [places, List.range_eq_range']
  rfl

theorem before_length (passed rest : List Char) :
    before (passed ++ rest) passed.length = passed.getLast? := by
  rw [before, List.take_left]

theorem shieldsColon_eq (b : Option Char) :
    shieldsColon b = b.any fun c => c == ':' || c == '\\' || Text.isWord c := by
  cases b with
  | none => rfl
  | some c => rfl

theorem startsWord_eq (rest : List Char) : startsWord rest = rest[0]?.any Text.isWord := by
  cases rest <;> rfl

theorem isBindColon_length (passed rest : List Char) (c : Char) :
    isBindColon (passed ++ c :: rest) passed.length =
      (decide (c = ':') && !shieldsColon passed.getLast? && startsWord rest) := by
  have here : (passed ++ c :: rest)[passed.length]? = some c := by simp
  have next : (passed ++ c :: rest)[passed.length + 1]? = rest[0]? := by
    rw [List.getElem?_append_right (by omega)]
    simp
  rw [isBindColon, here, next, before_length, shieldsColon_eq, startsWord_eq, Bool.and_right_comm]
  rfl

/-! ## The two scans -/

theorem length_marks (cs : List Char) : (Scan.marks cs).length = cs.length := by
  rw [← List.length_map Scan.Mark.char, Scan.marks, Scan.State.map_char_marks]

theorem escaped_next {s : Scan.State} {c : Char} (h : (s.next c).escaped = true) : c = '\\' := by
  by_cases hc : c = '\\'
  · exact hc
  · simp only [Scan.State.next, if_neg hc] at h
    split at h
    · simp at h
    · next hs =>
      split at h
      · simp at h
      · split at h
        · exact absurd h (by decide)
        · exact absurd h hs

theorem escaped_after {passed : List Char} (h : (Scan.State.top.after passed).escaped = true) :
    passed.getLast? = some '\\' := by
  rcases List.eq_nil_or_concat passed with rfl | ⟨others, c, rfl⟩
  · exact absurd h (by decide)
  · rw [List.concat_eq_append, Scan.State.after_append] at h
    obtain rfl := escaped_next h
    simp

theorem next_backslash_colon {s : Scan.State} (h : s.escaped = false) :
    (s.next '\\').next ':' = s.next ':' := by
  obtain ⟨quote, escaped⟩ := s
  obtain rfl : escaped = false := h
  cases quote with
  | none => decide
  | some q => cases q <;> decide

theorem marks_escaped_colon {s : Scan.State} (h : s.escaped = false) (rest : List Char) :
    s.marks ('\\' :: ':' :: rest) = ⟨'\\', true⟩ :: ⟨':', true⟩ :: (s.next ':').marks rest := by
  have first : s.mark '\\' = ⟨'\\', true⟩ := by simp [Scan.State.mark]
  have pending : (s.next '\\').escaped = true := by simp [Scan.State.next, h]
  have second : (s.next '\\').mark ':' = ⟨':', true⟩ := by simp [Scan.State.mark, pending]
  rw [Scan.State.marks, Scan.State.marks, first, second, next_backslash_colon h]

theorem marks_getElem?_length (passed rest : List Char) (c : Char) :
    (Scan.marks (passed ++ c :: rest))[passed.length]?
      = some ((Scan.State.top.after passed).mark c) := by
  rw [Scan.marks, Scan.State.marks_append, ← Scan.marks, ← length_marks]
  simp [Scan.State.marks]

theorem marks_escapeColons_cons (passed rest : List Char) (c : Char) :
    (Scan.State.top.after passed).marks (escapeColons passed.getLast? (c :: rest)) =
      markedAt (passed ++ c :: rest) passed.length ++
        (Scan.State.top.after (passed ++ [c])).marks
          (escapeColons (passed ++ [c]).getLast? rest) := by
  have after : Scan.State.top.after (passed ++ [c]) = (Scan.State.top.after passed).next c := by
    rw [Scan.State.after_append]
    rfl
  rw [after, List.getLast?_concat, markedAt, isBindColon_length, marks_getElem?_length]
  by_cases hb : (decide (c = ':') && !shieldsColon passed.getLast? && startsWord rest) = true
  · rw [escapeColons, if_pos hb, if_pos hb]
    simp only [Bool.and_eq_true, decide_eq_true_eq, Bool.not_eq_true'] at hb
    obtain ⟨⟨rfl, unshielded⟩, -⟩ := hb
    have quiet : (Scan.State.top.after passed).escaped = false := by
      rw [Bool.eq_false_iff]
      intro h
      rw [escaped_after h] at unshielded
      exact absurd unshielded (by decide)
    rw [marks_escaped_colon quiet]
    rfl
  · rw [escapeColons, if_neg hb, if_neg hb]
    rfl

/-- Escaping colons changes how nothing else is read, and so no placeholder. -/
theorem marks_escapeColons (cs : List Char) :
    Scan.marks (escapeColons none cs) = (List.range cs.length).flatMap (markedAt cs) := by
  have walk := walk_eq markedAt
    (fun passed rest => (Scan.State.top.after passed).marks (escapeColons passed.getLast? rest))
    (fun _ => rfl) (fun passed c rest => marks_escapeColons_cons passed rest c) [] cs
  rw [places_nil] at walk
  exact walk

/-! ## Filling -/

theorem map_char_marks_getElem? (cs : List Char) (p : Nat) :
    (Scan.marks cs)[p]?.map Scan.Mark.char = cs[p]? := by
  rw [← List.getElem?_map, Scan.marks, Scan.State.map_char_marks]

theorem not_isPlaceholderAt {cs : List Char} {p : Nat} (h : isBindColon cs p = true) :
    isPlaceholderAt cs p = false := by
  simp only [isBindColon, Bool.and_eq_true, beq_iff_eq] at h
  have colon := map_char_marks_getElem? cs p
  rw [h.1.1, Option.map_eq_some_iff] at colon
  obtain ⟨m, hm, hc⟩ := colon
  simp [isPlaceholderAt, hm, Scan.isPlaceholder, Scan.Mark.isPlain, hc]

theorem placeholdersBefore_length (passed rest : List Char) :
    placeholdersBefore (passed ++ rest) passed.length = Scan.countMarks (Scan.marks passed) := by
  rw [placeholdersBefore, Scan.marks, Scan.State.marks_append, ← Scan.marks, ← length_marks,
    List.take_left]

theorem placeholdersBefore_succ (cs : List Char) (p : Nat) :
    placeholdersBefore cs (p + 1) =
      placeholdersBefore cs p + Scan.countMarks (Scan.marks cs)[p]?.toList := by
  rw [placeholdersBefore, List.take_add_one, Scan.countMarks_append]
  rfl

theorem countMarks_markedAt (cs : List Char) (p : Nat) :
    placeholdersBefore cs p + Scan.countMarks (markedAt cs p) = placeholdersBefore cs (p + 1) := by
  rw [placeholdersBefore_succ, markedAt]
  split
  · next h =>
    have other := not_isPlaceholderAt h
    have inside : Scan.countMarks [⟨'\\', true⟩, ⟨':', true⟩] = 0 := by decide
    rw [inside]
    cases found : (Scan.marks cs)[p]? with
    | none => rfl
    | some m =>
      rw [isPlaceholderAt, found, Option.any_some] at other
      simp [Scan.countMarks, other]
  · rfl

def bindFilling (i : Nat) : Option (List Char) :=
  some (':' :: (bindName i).toList)

theorem fillMarks_markedAt (cs : List Char) (p : Nat) :
    Scan.fillMarks bindFilling (placeholdersBefore cs p) (markedAt cs p) = placed cs p := by
  unfold markedAt placed
  split
  · next h =>
    rw [not_isPlaceholderAt h]
    rfl
  · have char := map_char_marks_getElem? cs p
    unfold isPlaceholderAt
    cases found : (Scan.marks cs)[p]? with
    | none =>
      rw [found] at char
      simp [← char, Scan.fillMarks]
    | some m =>
      rw [found] at char
      by_cases hm : Scan.isPlaceholder m = true
      · simp [Scan.fillMarks, hm, bindFilling]
      · simp [Scan.fillMarks, hm, ← char]

theorem fillMarks_escapeColons (cs : List Char) :
    Scan.fillMarks bindFilling 0 (Scan.marks (escapeColons none cs)) = rewritten cs := by
  have walk := walk_eq placed
    (fun passed rest => Scan.fillMarks bindFilling (Scan.countMarks (Scan.marks passed))
      ((Scan.State.top.after passed).marks (escapeColons passed.getLast? rest)))
    (fun _ => rfl) ?_ [] cs
  · rw [places_nil] at walk
    exact walk
  · intro passed c rest
    have next := countMarks_markedAt (passed ++ c :: rest) passed.length
    rw [placeholdersBefore_length] at next
    have later := placeholdersBefore_length (passed ++ [c]) rest
    rw [List.append_assoc, List.length_append] at later
    rw [marks_escapeColons_cons, Scan.fillMarks_append, next, ← fillMarks_markedAt,
      placeholdersBefore_length, ← later]
    rfl

theorem parametersFrom_eq (i : Nat) (values : List Value) :
    parametersFrom i values = (values.zipIdx i).map fun entry => (bindName entry.2, entry.1) := by
  induction values generalizing i with
  | nil => rfl
  | cons v rest ih => simp [parametersFrom, ih]

/-! ## Escaping twice -/

theorem startsWord_escapeColons (rest : List Char) :
    startsWord (escapeColons (some ':') rest) = startsWord rest := by
  cases rest with
  | nil => rfl
  | cons c rest => simp [escapeColons, shieldsColon, startsWord]

theorem escapeColons_escapeColons (b : Option Char) (cs : List Char) :
    escapeColons b (escapeColons b cs) = escapeColons b cs := by
  induction cs generalizing b with
  | nil => rfl
  | cons c rest ih =>
    by_cases h : (decide (c = ':') && !shieldsColon b && startsWord rest) = true
    · rw [escapeColons, if_pos h]
      simp only [Bool.and_eq_true, decide_eq_true_eq] at h
      obtain rfl := h.1.1
      simp [escapeColons, shieldsColon, ih]
    · have again : ¬(decide (c = ':') && !shieldsColon b
          && startsWord (escapeColons (some c) rest)) = true := by
        intro both
        simp only [Bool.and_eq_true, decide_eq_true_eq] at both h
        obtain ⟨⟨rfl, unshielded⟩, word⟩ := both
        rw [startsWord_escapeColons] at word
        exact h ⟨⟨rfl, unshielded⟩, word⟩
      rw [escapeColons, if_neg h, escapeColons, if_neg again, ih]

/-! ## Preparing -/

theorem prepare_of_count {sql : String} {values : List Value}
    (h : Scan.placeholderCount sql = values.length) :
    prepare sql values = .ok {
      statement := String.ofList (rewritten sql.toList)
      parameters := values.zipIdx.map fun entry => (bindName entry.2, entry.1) } := by
  have filling : (fun i => (some (":" ++ bindName i)).map String.toList) = bindFilling := by
    funext i
    simp [bindFilling]
  simp only [prepare, h, ne_eq, not_true, if_false, Scan.fill, String.toList_ofList]
  rw [filling, fillMarks_escapeColons, parametersFrom_eq]

/-- Preparing fails exactly when placeholders and values are not equally many, and otherwise gives
the values in order and the text changed place by place. -/
theorem prepare_exact (sql : String) (values : List Value) :
    (prepare sql values =
        .error (.execution (.bindingCount (Scan.placeholderCount sql) values.length sql)) ↔
      Scan.placeholderCount sql ≠ values.length) ∧
    (prepare sql values = .ok {
        statement := String.ofList (rewritten sql.toList)
        parameters := values.zipIdx.map fun entry => (bindName entry.2, entry.1) } ↔
      Scan.placeholderCount sql = values.length) ∧
    Scan.marks (escapeColons none sql.toList) =
      (List.range sql.toList.length).flatMap (markedAt sql.toList) ∧
    escapeColons none (escapeColons none sql.toList) = escapeColons none sql.toList := by
  refine ⟨?_, ?_, marks_escapeColons _, escapeColons_escapeColons none _⟩
  · constructor
    · intro failed same
      rw [prepare_of_count same] at failed
      cases failed
    · intro h
      simp [prepare, h]
  · constructor
    · intro given
      by_cases h : Scan.placeholderCount sql = values.length
      · exact h
      · simp [prepare, h] at given
    · exact prepare_of_count

end FluentSql.Connection
