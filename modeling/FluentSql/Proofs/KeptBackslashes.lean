import FluentSql.Proofs.Literals
import FluentSql.Proofs.ScriptParts
import Mathlib.Data.List.Induction

/-!
# Literals that keep their backslashes

A style that leaves backslashes alone writes them as they are, and the reader
takes each of them together with the character after it. After an odd number of
backslashes it takes the first half of a doubled quote for a part of the text,
and leaves the literal at the second half, or enters the next one. So a text is
read from its literal as one if every quote, and the end, comes after an even
number of backslashes. For what is read past the literal this is more than
enough: the reader may leave and enter again, as long as it takes every
character in between with a quote or a backslash and is outside at the end.
-/

set_option autoImplicit false

namespace FluentSql.Scan

def closingBackslashes (cs : List Char) : Nat :=
  (cs.reverse.takeWhile fun c => c == '\\').length

/-- Every quote of the text, and its end, comes after an even number of backslashes. -/
def EvenlyEscaped (cs : List Char) : Prop :=
  ∀ before after, cs = before ++ after → after = [] ∨ after.head? = some '\'' →
    closingBackslashes before % 2 = 0

/-- No character of the literal of a text is plain, it is closed at its end, and what follows is
read as if it stood alone. -/
structure ReadWhole (style : LiteralStyle) (s : String) : Prop where
  inside : ∀ m ∈ marks (style.text s).toList, m.inside = true
  closed : IsClosed (style.text s).toList
  count : ∀ t, placeholderCount (style.text s ++ t) = placeholderCount t
  split : ∀ t, statements (style.text s ++ ";" ++ t) = style.text s :: statements t

def StaysOpen (style : LiteralStyle) (s : String) : Prop :=
  ∀ before after, s.toList = before ++ after →
    (State.top.after ('\'' :: style.textBody before)).quote = some .single

/-- A quote of the text that a backslash takes: of the two that are written, the second one ends
the literal, or begins one where none is open. -/
def turned : Option Quote → Option Quote
  | none => some .single
  | some .single => none
  | other => other

/-- Any other character. A quote that is written twice changes nothing. -/
def passed (reading : Option Quote) (c : Char) : Option Quote :=
  if c = '\'' then reading
  else
    match reading with
    | none => Quote.ofChar? c
    | some q => if c = q.char then none else some q

/-- Read on in a literal, or outside of all (`none`), every character of the text is taken with a
quote or a backslash, and the quote that is written at its end leaves nothing open. -/
def isCovered : Option Quote → List Char → Bool
  | reading, [] => reading == some .single
  | reading, ['\\'] => reading.isNone
  | reading, '\\' :: c :: rest => isCovered (if c = '\'' then turned reading else reading) rest
  | reading, c :: rest =>
    (reading.isSome || (Quote.ofChar? c).isSome) && isCovered (passed reading c) rest

/-! ## Backslashes -/

def isPending (cs : List Char) : Bool :=
  closingBackslashes cs % 2 == 1

theorem isPending_concat (cs : List Char) (c : Char) :
    isPending (cs ++ [c]) = (decide (c = '\\') && !isPending cs) := by
  by_cases backslash : c = '\\'
  · subst backslash
    have more : closingBackslashes (cs ++ ['\\']) = closingBackslashes cs + 1 := by
      simp [closingBackslashes]
    rw [isPending, isPending, more]
    rcases Nat.mod_two_eq_zero_or_one (closingBackslashes cs) with even | odd
    · simp [Nat.add_mod, even]
    · simp [Nat.add_mod, odd]
  · have none : closingBackslashes (cs ++ [c]) = 0 := by
      simp [closingBackslashes, backslash]
    simp [isPending, none, backslash]

theorem even_of_not_isPending {cs : List Char} (h : isPending cs = false) :
    closingBackslashes cs % 2 = 0 := by
  rw [isPending, beq_eq_false_iff_ne] at h
  omega

theorem not_isPending_of_even {cs : List Char} (h : closingBackslashes cs % 2 = 0) :
    isPending cs = false := by
  simp [isPending, h]

/-! ## One character of a text -/

variable {style : LiteralStyle}

theorem textBody_quote (style : LiteralStyle) : style.textBody ['\''] = ['\'', '\''] := by
  simp [LiteralStyle.textBody]

theorem textBody_backslash (keeps : style.doublesBackslash = false) (cs : List Char) :
    style.textBody ('\\' :: cs) = '\\' :: style.textBody cs := by
  simp [LiteralStyle.textBody, keeps]

theorem after_taken (keeps : style.doublesBackslash = false) (reading : Option Quote) (c : Char) :
    State.after ⟨reading, true⟩ (style.textBody [c]) =
      ⟨if c = '\'' then turned reading else reading, false⟩ := by
  by_cases quote : c = '\''
  · subst quote
    rw [textBody_quote]
    rcases reading with _ | (_ | _ | _) <;> decide
  · simp [LiteralStyle.textBody, quote, keeps, State.after, State.next]

theorem inside_taken (keeps : style.doublesBackslash = false) (reading : Option Quote) (c : Char) :
    ∀ m ∈ State.marks ⟨reading, true⟩ (style.textBody [c]), m.inside = true := by
  by_cases quote : c = '\''
  · subst quote
    rw [textBody_quote]
    rcases reading with _ | (_ | _ | _) <;> decide
  · simp [LiteralStyle.textBody, quote, keeps, State.marks, State.mark]

variable {c : Char}

theorem after_passed (style : LiteralStyle) (reading : Option Quote) (plain : c ≠ '\\') :
    State.after ⟨reading, false⟩ (style.textBody [c]) = ⟨passed reading c, false⟩ := by
  by_cases quote : c = '\''
  · subst quote
    rw [textBody_quote]
    rcases reading with _ | (_ | _ | _) <;> decide
  · cases reading with
    | none => simp [LiteralStyle.textBody, quote, plain, State.after, State.next, passed]
    | some q =>
      by_cases closes : c = q.char
      · simp [LiteralStyle.textBody, plain, State.after, State.next, passed, ← closes, quote,
          State.top]
      · simp [LiteralStyle.textBody, quote, plain, State.after, State.next, passed, closes]

theorem inside_passed (style : LiteralStyle) (reading : Option Quote) (plain : c ≠ '\\') :
    (∀ m ∈ State.marks ⟨reading, false⟩ (style.textBody [c]), m.inside = true) ↔
      (reading.isSome || (Quote.ofChar? c).isSome) = true := by
  by_cases quote : c = '\''
  · subst quote
    rw [textBody_quote]
    rcases reading with _ | (_ | _ | _) <;> decide
  · simp [LiteralStyle.textBody, quote, plain, State.marks, State.mark]

def State.held (pending : Bool) : State := ⟨some .single, pending⟩

theorem after_written (keeps : style.doublesBackslash = false) (pending : Bool) (c : Char) :
    (State.held pending).after (style.textBody [c]) =
      if c = '\'' ∧ pending = true then State.top
      else State.held (decide (c = '\\') && !pending) := by
  cases pending with
  | true =>
    rw [State.held, after_taken keeps]
    by_cases quote : c = '\'' <;> simp [quote, turned, State.top, State.held]
  | false =>
    by_cases backslash : c = '\\'
    · subst backslash
      rw [textBody_backslash keeps, show style.textBody [] = [] from rfl]
      decide
    · have stays : passed (some .single) c = some .single := by
        by_cases quote : c = '\'' <;> simp [passed, Quote.char, quote]
      rw [State.held, after_passed style _ backslash, stays]
      simp [backslash, State.held]

theorem inside_written (keeps : style.doublesBackslash = false) (pending : Bool) (c : Char) :
    ∀ m ∈ (State.held pending).marks (style.textBody [c]), m.inside = true := by
  cases pending with
  | true => exact inside_taken keeps _ c
  | false =>
    by_cases backslash : c = '\\'
    · subst backslash
      rw [textBody_backslash keeps, show style.textBody [] = [] from rfl]
      decide
    · exact (inside_passed style _ backslash).mpr rfl

/-! ## Reading a text from its literal -/

def afterOpening (style : LiteralStyle) (before : List Char) : State :=
  State.top.after ('\'' :: style.textBody before)

theorem afterOpening_nil (style : LiteralStyle) : afterOpening style [] = State.held false := rfl

theorem afterOpening_concat (style : LiteralStyle) (before : List Char) (c : Char) :
    afterOpening style (before ++ [c]) =
      (afterOpening style before).after (style.textBody [c]) := by
  rw [afterOpening, LiteralStyle.textBody_append, ← List.cons_append, State.after_append]
  rfl

theorem after_text (style : LiteralStyle) (s : String) :
    State.top.after (style.text s).toList = (afterOpening style s.toList).next '\'' := by
  rw [toList_text, State.after_append]
  rfl

/-- As long as every quote comes after an even number of backslashes, the reader stays in the
literal, and knows whether a backslash is pending. -/
theorem afterOpening_of_even (keeps : style.doublesBackslash = false) {before : List Char}
    (even : ∀ first rest, before = first ++ rest → rest.head? = some '\'' →
      closingBackslashes first % 2 = 0) :
    afterOpening style before = State.held (isPending before) := by
  induction before using List.reverseRecOn with
  | nil => exact afterOpening_nil style
  | append_singleton before c ih =>
    have here := ih fun first rest same quoted =>
      even first (rest ++ [c]) (by rw [same, List.append_assoc]) (by
        cases rest with
        | nil => simp at quoted
        | cons d rest => simpa using quoted)
    have free : ¬(c = '\'' ∧ isPending before = true) := by
      rintro ⟨rfl, pending⟩
      have := not_isPending_of_even (even before ['\''] rfl rfl)
      rw [pending] at this
      exact absurd this (by decide)
    rw [afterOpening_concat, here, after_written keeps, if_neg free, isPending_concat]

theorem afterOpening_of_opened (keeps : style.doublesBackslash = false) {before : List Char}
    (opened : ∀ first rest, before = first ++ rest →
      (afterOpening style first).quote = some .single) :
    afterOpening style before = State.held (isPending before) := by
  induction before using List.reverseRecOn with
  | nil => exact afterOpening_nil style
  | append_singleton before c ih =>
    have here := ih fun first rest same =>
      opened first (rest ++ [c]) (by rw [same, List.append_assoc])
    have still := opened (before ++ [c]) [] (by simp)
    rw [afterOpening_concat, here, after_written keeps] at still ⊢
    split at still
    · cases still
    · next free => rw [if_neg free, isPending_concat]

theorem inside_afterOpening (keeps : style.doublesBackslash = false) {before : List Char}
    (opened : ∀ first rest, before = first ++ rest →
      (afterOpening style first).quote = some .single) :
    ∀ m ∈ marks ('\'' :: style.textBody before), m.inside = true := by
  induction before using List.reverseRecOn with
  | nil =>
    have quote : ∀ m ∈ marks ['\''], m.inside = true := by decide
    exact quote
  | append_singleton before c ih =>
    have earlier : ∀ first rest, before = first ++ rest →
        (afterOpening style first).quote = some .single := fun first rest same =>
      opened first (rest ++ [c]) (by rw [same, List.append_assoc])
    intro m hm
    rw [LiteralStyle.textBody_append, ← List.cons_append, marks, State.marks_append,
      List.mem_append, ← afterOpening, afterOpening_of_opened keeps earlier] at hm
    rcases hm with hm | hm
    · exact ih earlier m hm
    · exact inside_written keeps _ c m hm

/-! ## Reading a literal -/

theorem EvenlyEscaped.opened (keeps : style.doublesBackslash = false) {s : String}
    (even : EvenlyEscaped s.toList) (before after : List Char) (same : s.toList = before ++ after) :
    (afterOpening style before).quote = some .single := by
  rw [afterOpening_of_even keeps]
  · rfl
  · intro first rest split quoted
    exact even first (rest ++ after) (by rw [same, split, List.append_assoc]) (.inr (by
      cases rest with
      | nil => simp at quoted
      | cons c rest => simpa using quoted))

theorem EvenlyEscaped.inside (keeps : style.doublesBackslash = false) {s : String}
    (even : EvenlyEscaped s.toList) : ∀ m ∈ marks (style.text s).toList, m.inside = true := by
  have opened := EvenlyEscaped.opened keeps even
  intro m hm
  rw [toList_text, marks, State.marks_append, List.mem_append, ← afterOpening,
    afterOpening_of_opened keeps opened] at hm
  rcases hm with hm | hm
  · exact inside_afterOpening keeps opened m hm
  · obtain rfl := List.mem_singleton.mp hm
    simp [State.mark, State.held]

theorem EvenlyEscaped.closed (keeps : style.doublesBackslash = false) {s : String}
    (even : EvenlyEscaped s.toList) : IsClosed (style.text s).toList := by
  have free := not_isPending_of_even (even s.toList [] (by simp) (.inl rfl))
  rw [IsClosed, after_text, afterOpening_of_opened keeps (EvenlyEscaped.opened keeps even), free]
  decide

theorem trim_text (style : LiteralStyle) (s : String) :
    Text.trim (style.text s) = style.text s := by
  rw [Text.trim, toList_text, List.cons_append, trimChars_of_start (by decide), ← List.cons_append,
    trimEnd_concat (by decide), ← toList_text, String.ofList_toList]

/-- The literal that PostgreSQL is given for a text is one literal, open throughout and closed at
its end, exactly if the text is evenly escaped. -/
theorem postgresql_staysOpen_iff (s : String) :
    StaysOpen .postgresql s ∧ IsClosed (LiteralStyle.postgresql.text s).toList ↔
      EvenlyEscaped s.toList := by
  have keeps : LiteralStyle.postgresql.doublesBackslash = false := rfl
  refine ⟨?_, fun even => ⟨even.opened keeps, even.closed keeps⟩⟩
  rintro ⟨opened, closed⟩ before after same ending
  have early : ∀ first rest, before = first ++ rest →
      (afterOpening .postgresql first).quote = some .single := fun first rest split =>
    opened first (rest ++ after) (by rw [same, split, List.append_assoc])
  have here := afterOpening_of_opened keeps early
  apply even_of_not_isPending
  rw [Bool.eq_false_iff]
  intro pending
  rw [pending] at here
  rcases ending with rfl | quoted
  · -- The closing quote would be taken for a part of the text.
    obtain rfl : s.toList = before := by simpa using same
    rw [IsClosed, after_text, here] at closed
    exact absurd closed (by decide)
  · -- The second half of the doubled quote would leave the literal.
    obtain ⟨rest, rfl⟩ := List.head?_eq_some_iff.mp quoted
    have still := opened (before ++ ['\'']) rest (by simp [same])
    rw [← afterOpening, afterOpening_concat, here, textBody_quote] at still
    exact absurd still (by decide)

/-! ## Reading past a literal -/

def State.Covers (s : State) (cs : List Char) : Prop :=
  (∀ m ∈ s.marks cs, m.inside = true) ∧ s.after cs = State.top

instance (s : State) (cs : List Char) : Decidable (s.Covers cs) :=
  inferInstanceAs (Decidable (_ ∧ _))

theorem State.covers_append (s : State) (xs ys : List Char) :
    s.Covers (xs ++ ys) ↔ (∀ m ∈ s.marks xs, m.inside = true) ∧ (s.after xs).Covers ys := by
  rw [Covers, Covers, State.marks_append, State.after_append, List.forall_mem_append, and_assoc]

/-- What is told of a text without its literal is what the reader makes of the literal. -/
theorem isCovered_iff (keeps : style.doublesBackslash = false) (reading : Option Quote)
    (cs : List Char) :
    isCovered reading cs = true ↔
      State.Covers ⟨reading, false⟩ (style.textBody cs ++ ['\'']) := by
  have backslash (reading : Option Quote) (cs : List Char) :
      State.Covers ⟨reading, false⟩ (style.textBody ('\\' :: cs) ++ ['\'']) ↔
        State.Covers ⟨reading, true⟩ (style.textBody cs ++ ['\'']) := by
    rw [textBody_backslash keeps, List.cons_append, ← List.singleton_append, State.covers_append]
    exact and_iff_right (by simp [State.marks, State.mark])
  have written (c : Char) (cs : List Char) :
      style.textBody (c :: cs) ++ ['\''] = style.textBody [c] ++ (style.textBody cs ++ ['\'']) := by
    rw [← List.append_assoc, ← LiteralStyle.textBody_append, List.singleton_append]
  fun_induction isCovered reading cs with
  | case1 reading =>
    change _ ↔ State.Covers ⟨reading, false⟩ ['\'']
    rcases reading with _ | (_ | _ | _) <;> decide
  | case2 reading =>
    rw [backslash]
    change _ ↔ State.Covers ⟨reading, true⟩ ['\'']
    rcases reading with _ | (_ | _ | _) <;> decide
  | case3 reading c rest ih =>
    rw [backslash, written, State.covers_append, after_taken keeps]
    exact ih.trans (and_iff_right (inside_taken keeps reading c)).symm
  | case4 reading c rest other longer ih =>
    have plain : c ≠ '\\' := by
      rintro rfl
      cases rest with
      | nil => exact other rfl rfl
      | cons next rest => exact longer next rest rfl rfl
    rw [written, State.covers_append, inside_passed style _ plain, after_passed style _ plain,
      Bool.and_eq_true]
    exact and_congr_right fun _ => ih

theorem covers_text (keeps : style.doublesBackslash = false) (s : String) :
    State.top.Covers (style.text s).toList ↔ isCovered (some .single) s.toList = true := by
  rw [isCovered_iff keeps, toList_text, List.cons_append, ← List.singleton_append,
    State.covers_append]
  exact and_iff_right (by decide)

theorem readWhole_iff (style : LiteralStyle) (s : String) :
    ReadWhole style s ↔ State.top.Covers (style.text s).toList := by
  refine ⟨fun whole => ⟨whole.inside, whole.closed⟩, fun ⟨inside, closed⟩ => ?_⟩
  have body : Body (style.text s) := by
    refine ⟨⟨closed, fun m hm c _ => isPlain_of_inside (inside m hm) c⟩, ?_⟩
    rw [toList_text]
    rfl
  refine ⟨inside, closed, fun t => ?_, fun t => ?_⟩
  · rw [placeholderCount, String.toList_append, marks_append closed, countMarks_append,
      body.unbroken.countMarks_eq_zero (by decide), Nat.zero_add]
    rfl
  · rw [statements_body body, trim_text]

/-- The literal that PostgreSQL is given for a text is read past, with the count and the split of
what follows unchanged, exactly if the text is covered. An evenly escaped text is. -/
theorem postgresql_readWhole_iff (s : String) :
    (ReadWhole .postgresql s ↔ isCovered (some .single) s.toList = true) ∧
      (EvenlyEscaped s.toList → ReadWhole .postgresql s) := by
  have keeps : LiteralStyle.postgresql.doublesBackslash = false := rfl
  refine ⟨(readWhole_iff _ s).trans (covers_text keeps s), fun even => ?_⟩
  exact (readWhole_iff _ s).mpr ⟨even.inside keeps, even.closed keeps⟩

example : placeholderCount (LiteralStyle.postgresql.text "\\" ++ "?") = 0 := by decide +kernel

example : statements (LiteralStyle.postgresql.text "\\" ++ ";a;b") = ["'\\';a;b"] := by
  decide +kernel

example : isCovered (some .single) "\\'\\'".toList = true := by decide +kernel

end FluentSql.Scan
