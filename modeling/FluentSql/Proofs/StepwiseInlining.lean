import FluentSql.Inline
import FluentSql.Proofs.Literals

/-!
# Values written in step by step

A filled text is read as the text was read before, with the marks of each
filling in the place of its placeholder. A contained filling has no
placeholder of its own, so a second round of fillings goes on where the first
one stopped, and what stands between the placeholders stays as it is. MySQL's
literals are contained, whatever their values.
-/

set_option autoImplicit false

namespace FluentSql.Scan

/-! ## Reading a filled text -/

def filledMarks (filling : Nat → Option (List Char)) : Nat → List Mark → List Mark
  | _, [] => []
  | index, m :: rest =>
    if isPlaceholder m then
      ((filling index).map marks).getD [m] ++ filledMarks filling (index + 1) rest
    else m :: filledMarks filling index rest

theorem State.marks_fillMarks (filling : Nat → Option (List Char))
    (closed : ∀ i text, filling i = some text → IsClosed text) (s : State) (index : Nat)
    (cs : List Char) :
    s.marks (fillMarks filling index (s.marks cs)) = filledMarks filling index (s.marks cs) := by
  induction cs generalizing s index with
  | nil => rfl
  | cons c cs ih =>
    rw [State.marks, fillMarks, filledMarks]
    by_cases placeholder : isPlaceholder (s.mark c) = true
    · rw [if_pos placeholder, if_pos placeholder]
      obtain ⟨rfl, rfl⟩ := State.top_of_isPlain placeholder
      have next : State.top.next '?' = State.top := by decide
      rw [next]
      cases found : filling index with
      | none => exact congrArg (State.top.mark '?' :: ·) (ih .top (index + 1))
      | some text =>
        have after : State.top.after text = State.top := closed index text found
        rw [Option.getD_some, State.marks_append, after, ih]
        rfl
    · rw [if_neg placeholder, if_neg placeholder]
      exact congrArg (s.mark c :: ·) (ih (s.next c) index)

/-! ## A list of fillings -/

variable {texts : List (List Char)}

theorem fillMarks_filledMarks (contained : ∀ text ∈ texts, Contained ['?'] text)
    (later : List (List Char)) (index : Nat) (ms : List Mark) :
    fillMarks (fun i => later[i]?) (index - texts.length)
        (filledMarks (fun i => texts[i]?) index ms) =
      fillMarks (fun i => (texts ++ later)[i]?) index ms := by
  induction ms generalizing index with
  | nil => rfl
  | cons m ms ih =>
    rw [filledMarks, fillMarks]
    by_cases placeholder : isPlaceholder m = true
    · rw [if_pos placeholder, if_pos placeholder]
      by_cases filled : index < texts.length
      · have text := contained texts[index] (List.getElem_mem filled)
        have start : index - texts.length = index + 1 - texts.length := by omega
        rw [List.getElem?_eq_getElem filled, List.getElem?_append_left filled,
          List.getElem?_eq_getElem filled, Option.map_some, Option.getD_some, Option.getD_some,
          fillMarks_append, text.fillMarks_eq (by simp), text.countMarks_eq_zero (by simp),
          Nat.add_zero, start, ih]
      · have start : index - texts.length + 1 = index + 1 - texts.length := by omega
        rw [List.getElem?_eq_none (by omega), List.getElem?_append_right (by omega),
          Option.map_none, Option.getD_none, List.singleton_append, fillMarks, if_pos placeholder,
          start, ih]
    · rw [if_neg placeholder, if_neg placeholder, fillMarks, if_neg placeholder, ih]

theorem countMarks_filledMarks (contained : ∀ text ∈ texts, Contained ['?'] text) (index : Nat)
    (ms : List Mark) :
    countMarks (filledMarks (fun i => texts[i]?) index ms) =
      countMarks ms - (texts.length - index) := by
  have count (m : Mark) (ms : List Mark) :
      countMarks (m :: ms) = countMarks ms + if isPlaceholder m then 1 else 0 :=
    List.countP_cons
  induction ms generalizing index with
  | nil => simp [filledMarks, countMarks]
  | cons m ms ih =>
    rw [filledMarks, count]
    by_cases placeholder : isPlaceholder m = true
    · rw [if_pos placeholder, if_pos placeholder, countMarks_append, ih]
      by_cases filled : index < texts.length
      · have text := contained texts[index] (List.getElem_mem filled)
        rw [List.getElem?_eq_getElem filled, Option.map_some, Option.getD_some,
          text.countMarks_eq_zero (by simp)]
        omega
      · have one : countMarks [m] = 1 := by simp [countMarks, placeholder]
        rw [List.getElem?_eq_none (by omega), Option.map_none, Option.getD_none, one]
        omega
    · rw [if_neg placeholder, if_neg placeholder, count, if_neg placeholder, ih, Nat.add_zero,
        Nat.add_zero]

/-! ## What stays -/

def beforeFirst (ms : List Mark) : List Char :=
  (ms.takeWhile fun m => !isPlaceholder m).map Mark.char

def behindEach : List Mark → List (List Char)
  | [] => []
  | m :: rest => if isPlaceholder m then beforeFirst rest :: behindEach rest else behindEach rest

theorem beforeFirst_placeholder {m : Mark} (h : isPlaceholder m = true) (ms : List Mark) :
    beforeFirst (m :: ms) = [] := by
  simp [beforeFirst, h]

theorem beforeFirst_other {m : Mark} (h : ¬isPlaceholder m = true) (ms : List Mark) :
    beforeFirst (m :: ms) = m.char :: beforeFirst ms := by
  simp [beforeFirst, h]

theorem length_behindEach (ms : List Mark) : (behindEach ms).length = countMarks ms := by
  induction ms with
  | nil => rfl
  | cons m ms ih =>
    rw [behindEach, countMarks]
    by_cases placeholder : isPlaceholder m = true
    · rw [if_pos placeholder, List.countP_cons_of_pos placeholder, List.length_cons, ih, countMarks]
    · rw [if_neg placeholder, List.countP_cons_of_neg placeholder, ih, countMarks]

theorem fillMarks_eq (filling : Nat → Option (List Char)) (index : Nat) (ms : List Mark) :
    fillMarks filling index ms = beforeFirst ms ++
      ((behindEach ms).mapIdx fun i text =>
        (filling (index + i)).getD ['?'] ++ text).flatten := by
  induction ms generalizing index with
  | nil => rfl
  | cons m ms ih =>
    rw [fillMarks, behindEach]
    by_cases placeholder : isPlaceholder m = true
    · have shifted (i : Nat) : index + 1 + i = index + (i + 1) := by omega
      rw [if_pos placeholder, if_pos placeholder, beforeFirst_placeholder placeholder,
        ih (index + 1), List.mapIdx_cons]
      simp [shifted]
    · rw [if_neg placeholder, if_neg placeholder, beforeFirst_other placeholder, ih index]
      rfl

theorem map_char_eq (ms : List Mark) :
    ms.map Mark.char = beforeFirst ms ++ (behindEach ms).flatMap ('?' :: ·) := by
  induction ms with
  | nil => rfl
  | cons m ms ih =>
    rw [List.map_cons, behindEach, ih]
    by_cases placeholder : isPlaceholder m = true
    · have same : m.char = '?' := by
        simp only [isPlaceholder, Mark.isPlain, Bool.and_eq_true] at placeholder
        exact of_decide_eq_true placeholder.1
      rw [if_pos placeholder, beforeFirst_placeholder placeholder, List.flatMap_cons, same]
      rfl
    · rw [if_neg placeholder, beforeFirst_other placeholder]
      rfl

end FluentSql.Scan

namespace FluentSql.LiteralStyle

def valueTexts (style : LiteralStyle) (values : List Value) : List (List Char) :=
  values.map fun v => (style.value v).toList

theorem toList_inline (style : LiteralStyle) (sql : String) (values : List Value) :
    (style.inline sql values).toList =
      Scan.fillMarks (fun i => (style.valueTexts values)[i]?) 0 (Scan.marks sql.toList) := by
  have filling (i : Nat) :
      (values[i]?.map style.value).map String.toList = (style.valueTexts values)[i]? := by
    simp [valueTexts, Function.comp_def]
  simp only [inline, Scan.fill, String.toList_ofList, filling]

variable {style : LiteralStyle}

theorem contained_valueTexts (contained : ∀ v, Scan.Contained ['?'] (style.value v).toList)
    (values : List Value) : ∀ text ∈ style.valueTexts values, Scan.Contained ['?'] text := by
  intro text member
  obtain ⟨v, -, rfl⟩ := List.mem_map.mp member
  exact contained v

theorem marks_inline (contained : ∀ v, Scan.Contained ['?'] (style.value v).toList)
    (sql : String) (values : List Value) :
    Scan.marks (style.inline sql values).toList =
      Scan.filledMarks (fun i => (style.valueTexts values)[i]?) 0 (Scan.marks sql.toList) := by
  rw [toList_inline]
  refine Scan.State.marks_fillMarks _ (fun i text found => ?_) .top 0 sql.toList
  exact (contained_valueTexts contained values text (List.mem_of_getElem? found)).closed

theorem inline_inline (contained : ∀ v, Scan.Contained ['?'] (style.value v).toList)
    (sql : String) (before after : List Value) :
    style.inline (style.inline sql before) after = style.inline sql (before ++ after) := by
  have texts := contained_valueTexts contained before
  have step := Scan.fillMarks_filledMarks texts (style.valueTexts after) 0 (Scan.marks sql.toList)
  apply String.toList_injective
  rw [toList_inline, marks_inline contained, toList_inline]
  simpa [valueTexts] using step

theorem placeholderCount_inline (contained : ∀ v, Scan.Contained ['?'] (style.value v).toList)
    (sql : String) (values : List Value) :
    Scan.placeholderCount (style.inline sql values) =
      Scan.placeholderCount sql - values.length := by
  have texts := contained_valueTexts contained values
  rw [Scan.placeholderCount, marks_inline contained, Scan.countMarks_filledMarks texts,
    Scan.placeholderCount, valueTexts, List.length_map, Nat.sub_zero]

end FluentSql.LiteralStyle

namespace FluentSql.Dialect

/-- Writing in some values and then others is writing them all in at once; each value uses up one
placeholder, and the text around the placeholders is kept. -/
theorem inline_stepwise (sql : String) (before after : List Value) :
    let inline := mysql.literals.inline
    let kept := Scan.beforeFirst (Scan.marks sql.toList)
    let others := Scan.behindEach (Scan.marks sql.toList)
    inline (inline sql before) after = inline sql (before ++ after) ∧
      Scan.placeholderCount (inline sql before) = Scan.placeholderCount sql - before.length ∧
      others.length = Scan.placeholderCount sql ∧
      sql.toList = kept ++ others.flatMap ('?' :: ·) ∧
      (inline sql before).toList = kept ++
        (others.mapIdx fun i text =>
          (mysql.literals.valueTexts before)[i]?.getD ['?'] ++ text).flatten := by
  have contained (v : Value) : Scan.Contained ['?'] (mysql.literals.value v).toList :=
    Scan.contained_value rfl (by decide) (by decide) v
  refine ⟨LiteralStyle.inline_inline contained sql before after,
    LiteralStyle.placeholderCount_inline contained sql before, Scan.length_behindEach _, ?_, ?_⟩
  · rw [← Scan.map_char_eq]
    exact (Scan.State.map_char_marks .top sql.toList).symm
  · simp only [LiteralStyle.toList_inline, Scan.fillMarks_eq, Nat.zero_add]

/-- The question mark of the first value is no placeholder for the second. -/
example :
    mysql.literals.inline (mysql.literals.inline "a = ? AND b = ?" [.text "it's ?"]) [.int 1] =
      "a = 'it''s ?' AND b = 1" := by
  decide +kernel

end FluentSql.Dialect
