import FluentSql.Dialect
import FluentSql.Proofs.Contained

/-!
# Literals that keep to themselves

A style that doubles backslashes writes any text as one literal: the reader
is inside of it from the first character to the last, and back at the top
level after it. Numbers are written with letters, digits, points and signs
only. So every value is written as a contained text.
-/

set_option autoImplicit false

namespace FluentSql.Scan

/-! ## Texts -/

def State.inText : State := ⟨some .single, false⟩

/-- The reader comes to the end of a text's body as it came to its beginning, inside all the way. -/
theorem inText_textBody {style : LiteralStyle} (doubles : style.doublesBackslash = true)
    (cs : List Char) :
    State.inText.after (style.textBody cs) = State.inText ∧
      ∀ m ∈ State.inText.marks (style.textBody cs), m.inside = true := by
  induction cs with
  | nil => exact ⟨rfl, by simp [LiteralStyle.textBody, State.marks]⟩
  | cons c cs ih =>
    obtain ⟨closed, inside⟩ := ih
    by_cases quote : c = '\''
    · -- The first quote closes the literal and the second opens it again.
      subst quote
      have next : (State.inText.next '\'').next '\'' = State.inText := by decide
      simp only [LiteralStyle.textBody, if_pos, State.after, State.marks, next,
        List.forall_mem_cons]
      exact ⟨closed, by decide, by decide, inside⟩
    · by_cases backslash : c = '\\'
      · subst backslash
        have next : (State.inText.next '\\').next '\\' = State.inText := by decide
        simp only [LiteralStyle.textBody, if_neg quote, doubles, decide_true, Bool.and_true,
          if_true, State.after, State.marks, next, List.forall_mem_cons]
        exact ⟨closed, by decide, by decide, inside⟩
      · have next : State.inText.next c = State.inText := by
          simp [State.inText, State.next, backslash, Quote.char, quote]
        have mark : (State.inText.mark c).inside = true := by
          simp [State.inText, State.mark]
        simp only [LiteralStyle.textBody, if_neg quote, backslash, decide_false, Bool.false_and,
          Bool.false_eq_true, if_false, State.after, State.marks, next, List.forall_mem_cons]
        exact ⟨closed, mark, inside⟩

theorem toList_text (style : LiteralStyle) (s : String) :
    (style.text s).toList = '\'' :: style.textBody s.toList ++ ['\''] := by
  rw [LiteralStyle.text, String.toList_ofList]

theorem closed_text {style : LiteralStyle} (doubles : style.doublesBackslash = true) (s : String) :
    IsClosed (style.text s).toList := by
  have opened : State.top.next '\'' = State.inText := by decide
  rw [IsClosed, toList_text, List.cons_append, State.after, opened, State.after_append,
    (inText_textBody doubles s.toList).1]
  decide

theorem inside_text {style : LiteralStyle} (doubles : style.doublesBackslash = true) (s : String) :
    ∀ m ∈ marks (style.text s).toList, m.inside = true := by
  obtain ⟨closed, inside⟩ := inText_textBody doubles s.toList
  have opened : State.top.next '\'' = State.inText := by decide
  intro m hm
  rw [toList_text, List.cons_append, marks, State.marks, opened, State.marks_append, closed] at hm
  simp only [List.mem_cons, List.mem_append] at hm
  rcases hm with rfl | hm | hm
  · decide
  · exact inside m hm
  · rcases List.mem_singleton.mp hm with rfl
    decide

theorem contained_text {style : LiteralStyle} (doubles : style.doublesBackslash = true)
    (marked : List Char) (s : String) : Contained marked (style.text s).toList :=
  ⟨closed_text doubles s, fun m hm c _ => isPlain_of_inside (inside_text doubles s m hm) c⟩

/-! ## Numbers -/

def isNumeric (c : Char) : Bool :=
  c.isAlphanum || c = '.' || c = '+' || c = '-'

def IsNumeral (cs : List Char) : Prop :=
  ∀ c ∈ cs, isNumeric c = true

instance (cs : List Char) : Decidable (IsNumeral cs) :=
  decidable_of_iff (cs.all isNumeric = true) List.all_eq_true

theorem ordinary_of_isNumeric {marked : List Char} {c : Char} (h : isNumeric c = true)
    (special : marked.any isNumeric = false) : Ordinary marked c := by
  have apart : ∀ d : Char, isNumeric d = false → c ≠ d := by
    rintro d hd rfl
    rw [h] at hd
    exact absurd hd (by decide)
  refine ⟨apart _ (by decide), ?_, fun member => List.any_eq_false.mp special c member h⟩
  rw [Quote.ofChar?, if_neg (apart _ (by decide)), if_neg (apart _ (by decide)),
    if_neg (apart _ (by decide))]

theorem IsNumeral.contained {marked cs : List Char} (h : IsNumeral cs)
    (special : marked.any isNumeric = false) : Contained marked cs :=
  contained_of_ordinary fun c hc => ordinary_of_isNumeric (h c hc) special

theorem isNumeral_nil : IsNumeral [] := by
  simp [IsNumeral]

theorem IsNumeral.cons {c : Char} {cs : List Char} (hc : isNumeric c = true)
    (h : IsNumeral cs) : IsNumeral (c :: cs) :=
  List.forall_mem_cons.mpr ⟨hc, h⟩

theorem IsNumeral.append {xs ys : List Char} (hx : IsNumeral xs) (hy : IsNumeral ys) :
    IsNumeral (xs ++ ys) :=
  List.forall_mem_append.mpr ⟨hx, hy⟩

theorem IsNumeral.subset {xs ys : List Char} (h : IsNumeral ys) (sub : xs ⊆ ys) :
    IsNumeral xs :=
  fun c hc => h c (sub hc)

theorem isNumeral_zeros (n : Nat) : IsNumeral (List.replicate n '0') := by
  intro c hc
  rw [List.eq_of_mem_replicate hc]
  decide

theorem isNumeral_natural (n : Nat) : IsNumeral (Text.natural n) := by
  intro c hc
  simp [isNumeric, Char.isAlphanum, Text.isDigit_natural c hc]

theorem isNumeral_padded (width n : Nat) : IsNumeral (Text.padded width n) := by
  rw [Text.padded, List.leftpad]
  exact (isNumeral_zeros _).append (isNumeral_natural n)

theorem isNumeral_integer (n : Int) : IsNumeral (Text.integer n) := by
  rw [Text.integer]
  split
  · exact (isNumeral_natural _).cons (by decide)
  · exact isNumeral_natural _

theorem IsNumeral.signed {cs : List Char} (h : IsNumeral cs) (negative : Bool) :
    IsNumeral (if negative then '-' :: cs else cs) := by
  cases negative with
  | true => exact h.cons (by decide)
  | false => exact h

/-! ### Doubles -/

theorem isNumeral_shortest (significand : Nat) (exponent : Int) :
    IsNumeral (Binary64.shortest significand exponent).digits := by
  rw [Binary64.shortest]
  split
  · next n scale _ =>
    apply (isNumeral_natural n).subset
    intro c hc
    have kept := (List.dropWhile_sublist _).subset (List.mem_reverse.mp hc)
    exact List.mem_reverse.mp kept
  · exact isNumeral_nil

theorem isNumeral_positional {d : Binary64.Digits} (h : IsNumeral d.digits) :
    IsNumeral (Binary64.positional d) := by
  rw [Binary64.positional]
  split
  · exact (((isNumeral_zeros _).append h).cons (by decide)).cons (by decide)
  · dsimp only
    split
    · exact (h.append (isNumeral_zeros _)).append (by decide)
    · exact (h.subset (List.take_subset _ _)).append
        ((h.subset (List.drop_subset _ _)).cons (by decide))

theorem isNumeral_scientific {d : Binary64.Digits} (h : IsNumeral d.digits) :
    IsNumeral (Binary64.scientific d) := by
  have exponent : ∀ n : Nat, ∀ below : Prop, [Decidable below] →
      IsNumeral ('e' :: (if below then '-' else '+') :: Text.padded 2 n) := by
    intro n below _
    refine ((isNumeral_padded 2 n).cons ?_).cons (by decide)
    split <;> decide
  rw [Binary64.scientific]
  refine IsNumeral.append ?_ (exponent _ _)
  split
  · next first second rest found =>
    rw [found] at h
    exact ((h.subset (List.subset_cons_self _ _)).cons (by decide)).cons (h first (by simp))
  · exact h

theorem isNumeral_magnitude (significand : Nat) (exponent : Int) :
    IsNumeral (Binary64.magnitudeText significand exponent) := by
  rw [Binary64.magnitudeText]
  split
  · decide
  · have digits := isNumeral_shortest significand exponent
    dsimp only
    split
    · exact isNumeral_positional digits
    · exact isNumeral_scientific digits

theorem isNumeral_double (x : Binary64) : IsNumeral x.text.toList := by
  rw [Binary64.text]
  split
  · decide
  · rw [Binary64.signed, String.toList_ofList]
    exact IsNumeral.signed (by decide) _
  · rw [Binary64.signed, String.toList_ofList]
    exact (isNumeral_magnitude _ _).signed _

/-! ### Decimals -/

theorem isNumeral_pointed {digits : List Char} (h : IsNumeral digits) (place : Int) :
    IsNumeral (Decimal.pointed digits place) := by
  rw [Decimal.pointed]
  split
  · exact (((isNumeral_zeros _).append h).cons (by decide)).cons (by decide)
  · split
    · exact h.append (isNumeral_zeros _)
    · exact (h.subset (List.take_subset _ _)).append
        ((h.subset (List.drop_subset _ _)).cons (by decide))

theorem isNumeral_coefficient (coefficient : Nat) (exponent : Int) :
    IsNumeral (Decimal.magnitudeText coefficient exponent) := by
  have digits := isNumeral_natural coefficient
  rw [Decimal.magnitudeText]
  split
  · exact isNumeral_pointed digits _
  · apply (isNumeral_pointed digits 1).append
    split
    · exact isNumeral_nil
    · refine ((isNumeral_natural _).cons ?_).cons (by decide)
      split <;> decide

theorem isNumeral_decimal (d : Decimal) : IsNumeral d.text.toList := by
  cases d with
  | finite negative coefficient exponent =>
    rw [Decimal.text, Decimal.signed, String.toList_ofList]
    exact (isNumeral_coefficient _ _).signed _
  | infinite negative =>
    rw [Decimal.text, Decimal.signed, String.toList_ofList]
    exact IsNumeral.signed (by decide) _
  | notANumber negative =>
    rw [Decimal.text, Decimal.signed, String.toList_ofList]
    exact IsNumeral.signed (by decide) _

/-! ## Values -/

theorem contained_value {style : LiteralStyle} (doubles : style.doublesBackslash = true)
    {marked : List Char} (special : marked.any isNumeric = false)
    (words : IsNumeral style.trueWord.toList ∧ IsNumeral style.falseWord.toList) (v : Value) :
    Contained marked (style.value v).toList := by
  have text (s : String) : Contained marked (style.text s).toList :=
    contained_text doubles marked s
  cases v with
  | null =>
    have null : IsNumeral "NULL".toList := by decide
    exact null.contained special
  | bool b =>
    cases b with
    | true => exact words.1.contained special
    | false => exact words.2.contained special
  | int n =>
    rw [LiteralStyle.value, Value.plain, Value.shown, Value.intText, String.toList_ofList]
    · exact (isNumeral_integer n).contained special
    all_goals simp
  | float x => exact (isNumeral_double x).contained special
  | decimal d => exact (isNumeral_decimal d).contained special
  | text s => exact text s
  | bytes bs => exact text _
  | dateTime t => exact text _
  | date d => exact text _
  | time t => exact text _
  | list items => exact text _
  | map entries => exact text _

end FluentSql.Scan
