import FluentSql.Proofs.ScriptCuts
import FluentSql.Proofs.StepwiseInlining

/-!
# Texts side by side

The reader comes to the end of a closed text as it began, so what follows is
read as if it stood alone; only the placeholders are numbered on. A filled
text is read like the text it came from, with contained fillings passed over,
so the placeholders that are left are those without a filling.
-/

set_option autoImplicit false

namespace FluentSql.Scan

/-! ## A closed text in front -/

theorem placeholderCount_append {a : String} (closed : IsClosed a.toList) (b : String) :
    placeholderCount (a ++ b) = placeholderCount a + placeholderCount b := by
  rw [placeholderCount, String.toList_append, marks_append closed, countMarks_append]
  rfl

theorem countMarks_placeholder {m : Mark} (placeholder : isPlaceholder m = true)
    (ms : List Mark) : countMarks (m :: ms) = countMarks ms + 1 :=
  List.countP_cons_of_pos placeholder

theorem countMarks_other {m : Mark} (other : ¬isPlaceholder m = true) (ms : List Mark) :
    countMarks (m :: ms) = countMarks ms :=
  List.countP_cons_of_neg other

theorem fillMarks_congr {f g : Nat → Option (List Char)} {i j : Nat} {ms : List Mark}
    (same : ∀ k < countMarks ms, f (i + k) = g (j + k)) : fillMarks f i ms = fillMarks g j ms := by
  induction ms generalizing i j with
  | nil => rfl
  | cons m ms ih =>
    rw [fillMarks, fillMarks]
    by_cases placeholder : isPlaceholder m = true
    · rw [countMarks_placeholder placeholder] at same
      have here : f i = g j := same 0 (by omega)
      rw [if_pos placeholder, if_pos placeholder, here, ih fun k within => ?_]
      rw [Nat.add_right_comm i, Nat.add_right_comm j]
      exact same (k + 1) (by omega)
    · rw [countMarks_other placeholder] at same
      rw [if_neg placeholder, if_neg placeholder, ih same]

theorem fill_append {a : String} (closed : IsClosed a.toList) (filling : Nat → Option String)
    (b : String) :
    fill filling (a ++ b) =
      fill filling a ++ fill (fun i => filling (i + placeholderCount a)) b := by
  rw [fill, String.toList_append, marks_append closed, fillMarks_append, String.ofList_append,
    fill, fill]
  congr 2
  apply fillMarks_congr
  intro k _
  rw [Nat.zero_add, Nat.zero_add, Nat.add_comm]
  rfl

theorem statements_append {a : String} (closed : IsClosed a.toList) (b : String) :
    statements (a ++ ";" ++ b) = statements a ++ statements b := by
  have whole : (a ++ ";" ++ b).toList = a.toList ++ ';' :: b.toList := by simp
  have separator : (State.top.mark ';').isPlain ';' = true := by decide
  rw [statements, whole, marks_separated closed, trimmedParts,
    parts_append_separator _ _ separator, List.map_append, List.filter_append, List.map_append]
  rfl

/-! ## What filling leaves -/

variable {filling : Nat → Option (List Char)}

theorem countMarks_unfilled
    (contained : ∀ i text, filling i = some text → Contained ['?'] text) (index : Nat)
    (ms : List Mark) :
    countMarks (filledMarks filling index ms) =
      (List.range' index (countMarks ms)).countP fun i => (filling i).isNone := by
  induction ms generalizing index with
  | nil => rfl
  | cons m ms ih =>
    rw [filledMarks]
    by_cases placeholder : isPlaceholder m = true
    · rw [if_pos placeholder, countMarks_append, ih, countMarks_placeholder placeholder,
        List.range'_succ, List.countP_cons, Nat.add_comm]
      congr 1
      cases found : filling index with
      | none => exact countMarks_placeholder placeholder []
      | some text => exact (contained index text found).countMarks_eq_zero (by simp)
    · rw [if_neg placeholder, countMarks_other placeholder, countMarks_other placeholder, ih]

def firstFillings (count : Nat) (filling : Nat → Option (List Char)) (i : Nat) :
    Option (List Char) :=
  if i < count then filling i else none

theorem firstFillings_of_lt {count i : Nat} (within : i < count) :
    firstFillings count filling i = filling i :=
  if_pos within

theorem countMarks_fillMarks {cs : List Char}
    (contained : ∀ i < countMarks (marks cs), ∀ text, filling i = some text →
      Contained ['?'] text) :
    countMarks (marks (fillMarks filling 0 (marks cs))) =
      (List.range (countMarks (marks cs))).countP fun i => (filling i).isNone := by
  -- Nothing is known of fillings beyond the last placeholder, so they are left out first.
  have kept : ∀ i text, firstFillings (countMarks (marks cs)) filling i = some text →
      Contained ['?'] text := by
    intro i text found
    obtain ⟨within, given⟩ := Option.ite_none_right_eq_some.mp found
    exact contained i within text given
  have filled : fillMarks filling 0 (marks cs) =
      fillMarks (firstFillings (countMarks (marks cs)) filling) 0 (marks cs) := by
    apply fillMarks_congr
    intro k within
    rw [Nat.zero_add, firstFillings_of_lt within]
  have read : marks (fillMarks _ 0 (marks cs)) = filledMarks _ 0 (marks cs) :=
    State.marks_fillMarks _ (fun i text found => (kept i text found).closed) .top 0 cs
  rw [filled, read, countMarks_unfilled kept, ← List.range_eq_range']
  apply List.countP_congr
  intro i member
  rw [firstFillings_of_lt (List.mem_range.mp member)]

theorem placeholderCount_fill {filling : Nat → Option String} {s : String}
    (contained : ∀ i < placeholderCount s, ∀ text, filling i = some text →
      Contained ['?'] text.toList) :
    placeholderCount (fill filling s) =
      (List.range (placeholderCount s)).countP fun i => (filling i).isNone := by
  rw [placeholderCount, fill, String.toList_ofList, countMarks_fillMarks]
  · simp only [Option.isNone_map]
    rfl
  · intro i within text found
    obtain ⟨written, given, rfl⟩ := Option.map_eq_some_iff.mp found
    exact contained i within written given

/-- Reading is compositional. After a closed text, placeholders are counted and filled, and after
a semicolon statements are split, as if the rest stood alone, with the placeholders numbered on.
And when every filling of a text is contained, the filled text has a placeholder left for each
one that has no filling. -/
theorem reading_compositional :
    (∀ a b : String, IsClosed a.toList → ∀ filling : Nat → Option String,
      placeholderCount (a ++ b) = placeholderCount a + placeholderCount b ∧
      fill filling (a ++ b) =
        fill filling a ++ fill (fun i => filling (i + placeholderCount a)) b ∧
      statements (a ++ ";" ++ b) = statements a ++ statements b) ∧
    ∀ (s : String) (filling : Nat → Option String),
      (∀ i < placeholderCount s, ∀ text, filling i = some text → Contained ['?'] text.toList) →
      placeholderCount (fill filling s) =
        (List.range (placeholderCount s)).countP fun i => (filling i).isNone := by
  constructor
  · intro a b closed filling
    exact ⟨placeholderCount_append closed b, fill_append closed filling b,
      statements_append closed b⟩
  · intro s filling contained
    exact placeholderCount_fill contained

/-- The first text ends behind a closed literal, the second inside an open one; the literal that
fills the first placeholder holds a question mark of its own. -/
theorem hostileTexts_compositional :
    let a := "a = 'x'';?' AND b = ?"
    let b := " AND c = ? OR 'it;"
    let filling : Nat → Option String := fun i => if i = 0 then some "'?'" else none
    IsClosed a.toList ∧ placeholderCount (a ++ b) = 2 ∧
      fill filling (a ++ b) = "a = 'x'';?' AND b = '?' AND c = ? OR 'it;" ∧
      statements (a ++ ";" ++ b) = [a, "AND c = ? OR 'it;"] ∧
      placeholderCount (fill filling (a ++ b)) = 1 := by
  intro a b filling
  have closed : IsClosed a.toList := by decide +kernel
  obtain ⟨count, filled, split⟩ := reading_compositional.1 a b closed filling
  have contained : ∀ i < placeholderCount (a ++ b), ∀ text, filling i = some text →
      Contained ['?'] text.toList := by
    intro i _ text found
    obtain ⟨-, given⟩ := Option.ite_none_right_eq_some.mp found
    rw [← Option.some_inj.mp given]
    decide +kernel
  refine ⟨closed, count.trans (by decide +kernel), filled.trans (by decide +kernel),
    split.trans (by decide +kernel), ?_⟩
  exact (reading_compositional.2 (a ++ b) filling contained).trans (by decide +kernel)

end FluentSql.Scan
