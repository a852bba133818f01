import FluentSql.Proofs.TextReading
import FluentSql.Proofs.WhereSentences

/-!
# Where clauses read from their texts

The text of a where clause and its values leave no choice of the clause, up
to the connectives that are not written: those of the first members of lists.
Columns are tokens and operators are made of comparison signs; empty groups
are allowed.
-/

set_option autoImplicit false

namespace FluentSql

open Reading

/-! ## Conditions -/

def IsOperator (s : String) : Prop :=
  ∀ c ∈ s.toList, c ∈ ['=', '<', '>', '!']

instance (s : String) : Decidable (IsOperator s) :=
  decidable_of_iff (s.toList.all (['=', '<', '>', '!'].contains ·) = true) (by simp [IsOperator])

theorem IsOperator.isToken {s : String} (h : IsOperator s) : IsToken s := by
  intro c hc
  have sign := h c hc
  simp only [List.mem_cons, List.not_mem_nil, or_false] at sign
  rcases sign with rfl | rfl | rfl | rfl <;> decide

theorem IsOperator.ne_letter {s : String} (h : IsOperator s) {c : Char}
    (letter : c ∉ [' ', '=', '<', '>', '!']) (rest others : List Char) :
    s.toList ++ ' ' :: rest ≠ c :: others := by
  intro same
  apply letter
  cases signs : s.toList with
  | nil =>
    rw [signs] at same
    exact List.mem_cons.mpr (.inl (List.cons.inj same).1.symm)
  | cons d ds =>
    rw [signs] at same
    obtain rfl := (List.cons.inj same).1
    exact List.mem_cons_of_mem _ (h d (by simp [signs]))

namespace Condition

def column : Condition → String
  | compare column _ _ | oneOf column _ | noneOf column _ | isNull column | isNotNull column
  | between column _ _ | like column _ => column

def predicate : Condition → String
  | compare _ operator _ => operator ++ " ?"
  | oneOf _ values => "IN (" ++ Where.marks values ++ ")"
  | noneOf _ values => "NOT IN (" ++ Where.marks values ++ ")"
  | isNull _ => "IS NULL"
  | isNotNull _ => "IS NOT NULL"
  | between _ _ _ => "BETWEEN ? AND ?"
  | like _ _ => "LIKE ?"

def IsLegible : Condition → Prop
  | compare column operator _ => IsToken column ∧ IsOperator operator
  | c => IsToken c.column

theorem IsLegible.column {c : Condition} (h : c.IsLegible) : IsToken c.column := by
  cases c with
  | compare column operator value => exact h.1
  | _ => exact h

theorem sql_fragment (c : Condition) :
    c.fragment.sql.toList = c.column.toList ++ ' ' :: c.predicate.toList := by
  cases c <;>
    simp [fragment, column, predicate, Where.marks, Fragment.sql, Fragment.sql_append,
      Fragment.sql_holes]

theorem IsLegible.head {c : Condition} (h : c.IsLegible) :
    ∃ first rest, c.fragment.sql.toList = first :: rest ∧ first ≠ '(' ∧ first ≠ ')' := by
  rw [sql_fragment]
  cases found : c.column.toList with
  | nil => exact ⟨' ', _, rfl, by decide, by decide⟩
  | cons first rest =>
    have unbroken : isBreak first = false := h.column first (by simp [found])
    refine ⟨first, _, rfl, ?_, ?_⟩ <;> rintro rfl <;> exact absurd unbroken (by decide)

theorem marks_read {vs ws : List Value} {r s : List Char}
    (same : (Where.marks vs).toList ++ ')' :: r = (Where.marks ws).toList ++ ')' :: s) :
    vs.length = ws.length ∧ r = s := by
  have mark : Readable (fun _ : Value => "?".toList) (fun _ => ()) (fun _ => True)
      (fun _ => True) := by
    intro v w _ _ r s _ _ same
    exact ⟨rfl, List.append_cancel_left same⟩
  have closed (r : List Char) : True ∧ (')' :: r).head? ≠ some ',' := by simp
  unfold Where.marks at same
  cases vs with
  | nil =>
    cases ws with
    | nil => exact ⟨rfl, (List.cons.inj same).2⟩
    | cons w ws =>
      rw [toList_commas] at same
      exact absurd same (by simp)
  | cons v vs =>
    cases ws with
    | nil =>
      rw [toList_commas] at same
      exact absurd same (by simp)
    | cons w ws =>
      obtain ⟨keys, rests⟩ := mark.commas (fun _ => trivial) ⟨List.cons_ne_nil v vs, by simp⟩
        ⟨List.cons_ne_nil w ws, by simp⟩ (closed r) (closed s) same
      exact ⟨by simpa using congrArg List.length keys, (List.cons.inj rests).2⟩

/-- A list of values ends where its parenthesis does, and the values of what follows begin there. -/
theorem values_read {xs ys vs ws : List Value} {r s : List Char}
    (text : (Where.marks xs).toList ++ ')' :: r = (Where.marks ys).toList ++ ')' :: s)
    (values : xs ++ vs = ys ++ ws) : xs = ys ∧ r = s ∧ vs = ws := by
  obtain ⟨lengths, rests⟩ := marks_read text
  obtain ⟨same, others⟩ := List.append_inj values lengths
  exact ⟨same, rests, others⟩

theorem operator_read {operator : String} (ho : IsOperator operator) {b : Condition}
    (hb : b.IsLegible) {r s : List Char}
    (text : (operator ++ " ?").toList ++ r = b.predicate.toList ++ s) :
    ∃ column value, b = compare column operator value ∧ r = s := by
  rw [String.toList_append, List.append_assoc] at text
  have letter (c : Char) (apart : c ∉ [' ', '=', '<', '>', '!'])
      (begins : (b.predicate.toList ++ s).head? = some c) : False := by
    obtain ⟨others, same⟩ := List.head?_eq_some_iff.mp begins
    exact ho.ne_letter apart _ _ (text.trans same)
  cases b with
  | compare column operator' value =>
    simp only [predicate, String.toList_append, List.append_assoc] at text
    obtain ⟨rfl, rests⟩ := readable_token ho.isToken hb.2.isToken (stops_blank _) (stops_blank _)
      text
    exact ⟨column, value, rfl, by simpa using rests⟩
  | oneOf column values => exact (letter 'I' (by decide) (by simp [predicate])).elim
  | noneOf column values => exact (letter 'N' (by decide) (by simp [predicate])).elim
  | isNull column => exact (letter 'I' (by decide) (by simp [predicate])).elim
  | isNotNull column => exact (letter 'I' (by decide) (by simp [predicate])).elim
  | between column low high => exact (letter 'B' (by decide) (by simp [predicate])).elim
  | like column pattern => exact (letter 'L' (by decide) (by simp [predicate])).elim

theorem predicate_read {a b : Condition} (ha : a.IsLegible) (hb : b.IsLegible)
    (columns : a.column = b.column) {r s : List Char} {vs ws : List Value}
    (text : a.predicate.toList ++ r = b.predicate.toList ++ s)
    (values : a.values ++ vs = b.values ++ ws) : a = b ∧ r = s ∧ vs = ws := by
  -- A comparison is recognised from either side; the other forms differ in their keywords.
  have compared (column operator value) (is : b = compare column operator value) :
      ∃ column value, a = compare column operator value := by
    subst is
    obtain ⟨column, value, same, -⟩ := operator_read hb.2 ha text.symm
    exact ⟨column, value, same⟩
  cases a with
  | compare column operator value =>
    obtain ⟨column', value', rfl, rests⟩ := operator_read ha.2 hb text
    obtain rfl : column = column' := columns
    obtain ⟨rfl, others⟩ := List.cons.inj values
    exact ⟨rfl, rests, others⟩
  | oneOf column xs =>
    cases b with
    | oneOf column' ys =>
      simp only [predicate, String.toList_append, List.append_assoc] at text
      obtain ⟨rfl, rests, others⟩ := values_read (List.append_cancel_left text) values
      obtain rfl : column = column' := columns
      exact ⟨rfl, rests, others⟩
    | compare => simp at compared
    | _ => simp [predicate] at text
  | noneOf column xs =>
    cases b with
    | noneOf column' ys =>
      simp only [predicate, String.toList_append, List.append_assoc] at text
      obtain ⟨rfl, rests, others⟩ := values_read (List.append_cancel_left text) values
      obtain rfl : column = column' := columns
      exact ⟨rfl, rests, others⟩
    | compare => simp at compared
    | _ => simp [predicate] at text
  | isNull column =>
    cases b with
    | isNull column' =>
      obtain rfl : column = column' := columns
      exact ⟨rfl, List.append_cancel_left text, values⟩
    | compare => simp at compared
    | _ => simp [predicate] at text
  | isNotNull column =>
    cases b with
    | isNotNull column' =>
      obtain rfl : column = column' := columns
      exact ⟨rfl, List.append_cancel_left text, values⟩
    | compare => simp at compared
    | _ => simp [predicate] at text
  | between column low high =>
    cases b with
    | between column' low' high' =>
      obtain rfl : column = column' := columns
      obtain ⟨rfl, rest⟩ := List.cons.inj values
      obtain ⟨rfl, others⟩ := List.cons.inj rest
      exact ⟨rfl, List.append_cancel_left text, others⟩
    | compare => simp at compared
    | _ => simp [predicate] at text
  | like column pattern =>
    cases b with
    | like column' pattern' =>
      obtain rfl : column = column' := columns
      obtain ⟨rfl, others⟩ := List.cons.inj values
      exact ⟨rfl, List.append_cancel_left text, others⟩
    | compare => simp at compared
    | _ => simp [predicate] at text

theorem fragment_read {a b : Condition} (ha : a.IsLegible) (hb : b.IsLegible) {r s : List Char}
    {vs ws : List Value} (text : a.fragment.sql.toList ++ r = b.fragment.sql.toList ++ s)
    (values : a.values ++ vs = b.values ++ ws) : a = b ∧ r = s ∧ vs = ws := by
  rw [sql_fragment, sql_fragment, List.append_assoc, List.append_assoc] at text
  obtain ⟨columns, rests⟩ := readable_token ha.column hb.column (stops_blank _) (stops_blank _) text
  exact predicate_read ha hb columns (List.cons.inj rests).2 values

end Condition

/-! ## Clauses and lists -/

namespace Where

def tied (connective : Connective) : Where → Where
  | leaf _ condition => leaf connective condition
  | group _ members => group connective members

@[simp] theorem connective_tied (k : Connective) (w : Where) : (tied k w).connective = k := by
  cases w <;> rfl

@[simp] theorem body_tied (k : Connective) (w : Where) : (tied k w).body = w.body := by
  cases w <;> rfl

@[simp] theorem values_tied (k : Connective) (w : Where) : (tied k w).values = w.values := by
  cases w <;> rfl

mutual

def alone : Where → Where
  | leaf _ condition => leaf .and condition
  | group _ members => group .and (settled members)

/-- The list as it reads, with the usual connective wherever none is written. -/
def settled : List Where → List Where
  | [] => []
  | w :: rest => alone w :: following rest

def following : List Where → List Where
  | [] => []
  | w :: rest => tied w.connective (alone w) :: following rest

end

mutual

def IsLegible : Where → Prop
  | leaf _ condition => condition.IsLegible
  | group _ members => AllLegible members

def AllLegible : List Where → Prop
  | [] => True
  | w :: rest => IsLegible w ∧ AllLegible rest

end

theorem body_group (connective : Connective) (members : List Where) :
    (group connective members).body.sql.toList = '(' :: ((listed members).sql.toList ++ [')']) := by
  simp [body, Fragment.sql, Fragment.sql_append]

theorem listed_cons (w : Where) (rest : List Where) :
    (listed (w :: rest)).sql.toList = w.body.sql.toList ++ (continued rest).sql.toList := by
  simp [listed, Fragment.sql_append]

theorem continued_cons (w : Where) (rest : List Where) :
    (continued (w :: rest)).sql.toList =
      ' ' :: ((Keyword.word w.connective).toList ++
        ' ' :: (w.body.sql.toList ++ (continued rest).sql.toList)) := by
  simp [continued, connectiveText, Fragment.sql, Fragment.sql_append]

theorem IsLegible.head {w : Where} (h : w.IsLegible) :
    ∃ first rest, w.body.sql.toList = first :: rest ∧ first ≠ ')' := by
  cases w with
  | leaf connective condition =>
    obtain ⟨first, rest, begins, -, apart⟩ := Condition.IsLegible.head h
    exact ⟨first, rest, begins, apart⟩
  | group connective members => exact ⟨'(', _, body_group connective members, by decide⟩

theorem nil_iff_of_closed {ws us : List Where} (hw : AllLegible ws) (hu : AllLegible us)
    {r s : List Char}
    (text : (listed ws).sql.toList ++ ')' :: r = (listed us).sql.toList ++ ')' :: s) :
    ws = [] ↔ us = [] := by
  have filled (w : Where) (rest : List Where) (h : w.IsLegible) (r s : List Char) :
      (listed (w :: rest)).sql.toList ++ r ≠ ')' :: s := by
    obtain ⟨first, others, begins, apart⟩ := h.head
    rw [listed_cons, begins]
    exact fun same => apart (List.cons.inj same).1
  cases ws with
  | nil =>
    cases us with
    | nil => rfl
    | cons u us => exact absurd text.symm (filled u us hu.1 _ _)
  | cons w ws =>
    cases us with
    | nil => exact absurd text (filled w ws hw.1 _ _)
    | cons u us => simp

theorem goesOn_continued (w : Where) (rest : List Where) (s : List Char) :
    GoesOn ["AND", "OR"] ((continued (w :: rest)).sql.toList ++ s) := by
  refine ⟨Keyword.word w.connective, ?_,
    w.body.sql.toList ++ ((continued rest).sql.toList ++ s), ?_⟩
  · cases w.connective <;> decide
  · simp [continued_cons]

theorem not_goesOn {rest : List Char} (h : Ends ["AND", "OR"] rest) :
    ¬ GoesOn ["AND", "OR"] rest :=
  h.not_goesOn (by decide)

mutual

/-- A clause is read up to its own connective, whatever follows it. -/
theorem body_read (a b : Where) (ha : a.IsLegible) (hb : b.IsLegible) {r s : List Char}
    {vs ws : List Value} (text : a.body.sql.toList ++ r = b.body.sql.toList ++ s)
    (values : a.values ++ vs = b.values ++ ws) : alone a = alone b ∧ r = s ∧ vs = ws := by
  cases a with
  | leaf _ condition =>
    cases b with
    | leaf _ condition' =>
      obtain ⟨rfl, rests, others⟩ := Condition.fragment_read ha hb text values
      exact ⟨rfl, rests, others⟩
    | group connective members =>
      obtain ⟨first, rest, begins, apart, -⟩ := Condition.IsLegible.head ha
      rw [body_group, body, begins] at text
      exact absurd (List.cons.inj text).1 apart
  | group _ members =>
    cases b with
    | leaf _ condition =>
      obtain ⟨first, rest, begins, apart, -⟩ := Condition.IsLegible.head hb
      rw [body_group, body, begins] at text
      exact absurd (List.cons.inj text).1.symm apart
    | group _ members' =>
      rw [body_group, body_group, List.cons_append, List.cons_append, List.append_assoc,
        List.append_assoc] at text
      have inner := (List.cons.inj text).2
      -- The members end at the parenthesis, whatever follows the group.
      obtain ⟨same, rests, others⟩ := listed_read members members' ha hb
        (nil_iff_of_closed ha hb inner) (ends_closed (by decide) r) (ends_closed (by decide) s)
        inner values
      exact ⟨by rw [alone, alone, same], (List.cons.inj rests).2, others⟩

theorem listed_read (as bs : List Where) (ha : AllLegible as) (hb : AllLegible bs)
    (nil : as = [] ↔ bs = []) {r s : List Char} (hr : Ends ["AND", "OR"] r)
    (hs : Ends ["AND", "OR"] s) {vs ws : List Value}
    (text : (listed as).sql.toList ++ r = (listed bs).sql.toList ++ s)
    (values : valuesAll as ++ vs = valuesAll bs ++ ws) :
    settled as = settled bs ∧ r = s ∧ vs = ws := by
  cases as with
  | nil =>
    obtain rfl := nil.mp rfl
    exact ⟨rfl, text, values⟩
  | cons a as =>
    cases bs with
    | nil => simp at nil
    | cons b bs =>
      rw [listed_cons, listed_cons, List.append_assoc, List.append_assoc] at text
      rw [valuesAll, valuesAll, List.append_assoc, List.append_assoc] at values
      obtain ⟨same, rests, others⟩ := body_read a b ha.1 hb.1 text values
      obtain ⟨sameRest, ends, left⟩ := continued_read as bs ha.2 hb.2 hr hs rests others
      exact ⟨by rw [settled, settled, same, sameRest], ends, left⟩

theorem continued_read (as bs : List Where) (ha : AllLegible as) (hb : AllLegible bs)
    {r s : List Char} (hr : Ends ["AND", "OR"] r) (hs : Ends ["AND", "OR"] s)
    {vs ws : List Value}
    (text : (continued as).sql.toList ++ r = (continued bs).sql.toList ++ s)
    (values : valuesAll as ++ vs = valuesAll bs ++ ws) :
    following as = following bs ∧ r = s ∧ vs = ws := by
  cases as with
  | nil =>
    cases bs with
    | nil => exact ⟨rfl, text, values⟩
    | cons b bs =>
      -- One list goes on with a connective where the other one ends.
      have goes := goesOn_continued b bs s
      rw [← text] at goes
      exact absurd goes (not_goesOn hr)
  | cons a as =>
    cases bs with
    | nil =>
      have goes := goesOn_continued a as r
      rw [text] at goes
      exact absurd goes (not_goesOn hs)
    | cons b bs =>
      simp only [continued_cons, List.cons_append, List.append_assoc] at text
      rw [valuesAll, valuesAll, List.append_assoc, List.append_assoc] at values
      obtain ⟨connectives, behind⟩ := readable_connective trivial trivial (stops_blank _)
        (stops_blank _) (List.cons.inj text).2
      obtain ⟨same, rests, others⟩ := body_read a b ha.1 hb.1 (List.cons.inj behind).2 values
      obtain ⟨sameRest, ends, left⟩ := continued_read as bs ha.2 hb.2 hr hs rests others
      refine ⟨?_, ends, left⟩
      rw [following, following, same, sameRest, show a.connective = b.connective from connectives]

end

theorem clause_cons (w : Where) (rest : List Where) :
    spacedAfter (clause (w :: rest)).sql =
      ' ' :: ("WHERE".toList ++ ' ' :: (listed (w :: rest)).sql.toList) := by
  simp [spacedAfter, clause, Fragment.sql]

theorem goesOn_clause (w : Where) (rest : List Where) (s : List Char) :
    GoesOn ["WHERE"] (spacedAfter (clause (w :: rest)).sql ++ s) :=
  ⟨"WHERE", by simp, (listed (w :: rest)).sql.toList ++ s, by simp [clause_cons]⟩

theorem clause_read {as bs : List Where} (ha : AllLegible as) (hb : AllLegible bs)
    {r s : List Char} (hr : Ends ["AND", "OR", "WHERE"] r) (hs : Ends ["AND", "OR", "WHERE"] s)
    {vs ws : List Value}
    (text : spacedAfter (clause as).sql ++ r = spacedAfter (clause bs).sql ++ s)
    (values : valuesAll as ++ vs = valuesAll bs ++ ws) :
    settled as = settled bs ∧ r = s ∧ vs = ws := by
  have nil := nil_iff_nil (fun ws => spacedAfter (clause ws).sql) "WHERE" (by decide) rfl
    goesOn_clause (by simp) hr hs text
  cases as with
  | nil =>
    obtain rfl := nil.mp rfl
    exact ⟨rfl, text, values⟩
  | cons a as =>
    cases bs with
    | nil => simp at nil
    | cons b bs =>
      simp only [clause_cons, List.cons_append, List.append_assoc] at text
      have inner := List.append_cancel_left (List.cons.inj text).2
      exact listed_read (a :: as) (b :: bs) ha hb nil (hr.subset (by simp)) (hs.subset (by simp))
        (List.cons.inj inner).2 values

/-! ## Texts of settled lists -/

mutual

theorem body_alone (w : Where) : (alone w).body.sql = w.body.sql ∧ (alone w).values = w.values := by
  cases w with
  | leaf _ condition => exact ⟨rfl, rfl⟩
  | group _ members =>
    obtain ⟨text, values⟩ := listed_settled members
    simp [alone, body, Where.values, Fragment.sql, Fragment.sql_append, text, values]

theorem listed_settled (ws : List Where) :
    (listed (settled ws)).sql = (listed ws).sql ∧ valuesAll (settled ws) = valuesAll ws := by
  cases ws with
  | nil => exact ⟨rfl, rfl⟩
  | cons w rest =>
    obtain ⟨text, values⟩ := body_alone w
    obtain ⟨restText, restValues⟩ := continued_following rest
    simp [settled, listed, valuesAll, Fragment.sql_append, text, values, restText, restValues]

theorem continued_following (ws : List Where) :
    (continued (following ws)).sql = (continued ws).sql ∧
      valuesAll (following ws) = valuesAll ws := by
  cases ws with
  | nil => exact ⟨rfl, rfl⟩
  | cons w rest =>
    obtain ⟨text, values⟩ := body_alone w
    obtain ⟨restText, restValues⟩ := continued_following rest
    simp [following, continued, valuesAll, connectiveText, Fragment.sql, Fragment.sql_append, text,
      values, restText, restValues]

end

theorem clause_settled (ws : List Where) :
    (clause (settled ws)).sql = (clause ws).sql ∧ valuesAll (settled ws) = valuesAll ws := by
  obtain ⟨text, values⟩ := listed_settled ws
  refine ⟨?_, values⟩
  cases ws with
  | nil => rfl
  | cons w rest => exact congrArg ("WHERE " ++ ·) text

end Where

end FluentSql
