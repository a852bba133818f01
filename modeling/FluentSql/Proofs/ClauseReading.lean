import FluentSql.Proofs.TextReading
import FluentSql.Query.Clause

/-!
# Joins, orders and pages read from their texts

The clauses without values leave no choice either: a join up to the
connective of its first condition, orders and pages wholly. What ends a
clause is the end of the statement, or a word that the clause does not go on
with.
-/

set_option autoImplicit false

namespace FluentSql

open Reading

/-! ## Joins -/

def JoinCondition.IsLegible (c : JoinCondition) : Prop :=
  IsToken c.left ∧ IsToken c.operator ∧ IsToken c.right

def JoinCondition.alone (c : JoinCondition) : JoinCondition :=
  { c with connective := .and }

namespace Join

structure IsLegible (j : Join) : Prop where
  table : IsToken j.table
  conditions : ∀ c ∈ j.conditions, c.IsLegible

def settledConditions : List JoinCondition → List JoinCondition
  | [] => []
  | c :: rest => c.alone :: rest

/-- The join as it reads, with the usual connective where none is written. -/
def settled (j : Join) : Join :=
  { j with conditions := settledConditions j.conditions }

theorem conditionText_chars (c : JoinCondition) :
    (conditionText c).toList =
      c.left.toList ++ ' ' :: (c.operator.toList ++ ' ' :: c.right.toList) := by
  simp [conditionText]

theorem readable_conditionText :
    Readable (fun c => (conditionText c).toList) JoinCondition.alone JoinCondition.IsLegible
      Stops := by
  intro a b ha hb r s hr hs same
  simp only [conditionText_chars, List.append_assoc, List.cons_append] at same
  obtain ⟨lefts, same⟩ := readable_token ha.1 hb.1 (stops_blank _) (stops_blank _) same
  obtain ⟨operators, same⟩ := readable_token ha.2.1 hb.2.1 (stops_blank _) (stops_blank _)
    (List.cons.inj same).2
  obtain ⟨rights, ends⟩ := readable_token ha.2.2 hb.2.2 hr hs (List.cons.inj same).2
  cases a
  cases b
  cases lefts
  cases operators
  cases rights
  exact ⟨rfl, ends⟩

def tiedText (c : JoinCondition) : List Char :=
  ' ' :: ((Keyword.word c.connective).toList ++ ' ' :: (conditionText c).toList)

theorem readable_tiedText : Readable tiedText id JoinCondition.IsLegible Stops := by
  intro a b ha hb r s hr hs same
  simp only [tiedText, List.append_assoc, List.cons_append] at same
  obtain ⟨connectives, same⟩ := readable_connective trivial trivial (stops_blank _)
    (stops_blank _) (List.cons.inj same).2
  obtain ⟨conditions, ends⟩ := readable_conditionText ha hb hr hs (List.cons.inj same).2
  cases a
  cases b
  cases connectives
  cases conditions
  exact ⟨rfl, ends⟩

theorem goesOn_tiedText (c : JoinCondition) (r : List Char) :
    GoesOn ["AND", "OR"] (tiedText c ++ r) := by
  refine ⟨Keyword.word c.connective, ?_, (conditionText c).toList ++ r, by simp [tiedText]⟩
  cases c.connective <;> decide

theorem continued_chars (cs : List JoinCondition) :
    (continued cs).toList = cs.flatMap tiedText := by
  induction cs with
  | nil => rfl
  | cons c rest ih => simp [continued, tiedText, ih]

theorem readable_continued :
    Readable (fun cs => (continued cs).toList) id (fun cs => ∀ c ∈ cs, c.IsLegible)
      (Ends ["AND", "OR"]) := by
  have many := readable_tiedText.manyWords ["AND", "OR"] [] (by decide)
    (fun c _ => goesOn_tiedText c) (fun r => Ends.stops)
  rw [show (fun cs => (continued cs).toList) = List.flatMap tiedText from funext continued_chars]
  simpa using many

theorem onText_cons (c : JoinCondition) (rest : List JoinCondition) :
    (onText (c :: rest)).toList =
      ' ' :: ("ON".toList ++ ' ' :: ((conditionText c).toList ++ (continued rest).toList)) := by
  simp [onText]

theorem goesOn_onText (c : JoinCondition) (rest : List JoinCondition) (s : List Char) :
    GoesOn ["ON"] ((onText (c :: rest)).toList ++ s) :=
  ⟨"ON", by simp, (conditionText c).toList ++ ((continued rest).toList ++ s), by simp [onText_cons]⟩

theorem stops_continued (cs : List JoinCondition) {rest : List Char} (h : Stops rest) :
    Stops ((continued cs).toList ++ rest) := by
  cases cs with
  | nil => exact h
  | cons c cs =>
    rw [continued_chars]
    exact stops_blank _

theorem readable_onText :
    Readable (fun cs => (onText cs).toList) settledConditions (fun cs => ∀ c ∈ cs, c.IsLegible)
      (Ends ["ON", "AND", "OR"]) := by
  intro as bs ha hb r s hr hs same
  have nil := nil_iff_nil (fun cs => (onText cs).toList) "ON" (by decide) rfl goesOn_onText
    (by simp) hr hs same
  cases as with
  | nil =>
    obtain rfl := nil.mp rfl
    exact ⟨rfl, same⟩
  | cons a as =>
    cases bs with
    | nil => simp at nil
    | cons b bs =>
      simp only [onText_cons, List.cons_append, List.append_assoc] at same
      have inner := List.append_cancel_left (List.cons.inj same).2
      obtain ⟨has, has'⟩ := List.forall_mem_cons.mp ha
      obtain ⟨hbs, hbs'⟩ := List.forall_mem_cons.mp hb
      obtain ⟨firsts, rests⟩ := readable_conditionText has hbs (stops_continued as hr.stops)
        (stops_continued bs hs.stops) (List.cons.inj inner).2
      obtain ⟨others, ends⟩ := readable_continued has' hbs' (hr.subset (by simp))
        (hs.subset (by simp)) rests
      obtain rfl : as = bs := others
      exact ⟨by rw [settledConditions, settledConditions, firsts], ends⟩

def spacedText (j : Join) : List Char :=
  ' ' :: j.sql.toList

theorem spacedText_chars (j : Join) :
    j.spacedText = ' ' :: ((Keyword.word j.kind).toList ++
      ' ' :: ("JOIN".toList ++ ' ' :: (j.table.toList ++ (onText j.conditions).toList))) := by
  simp [spacedText, sql]

theorem goesOn_spacedText (j : Join) (r : List Char) :
    GoesOn ["INNER", "LEFT", "RIGHT", "CROSS"] (j.spacedText ++ r) := by
  refine ⟨Keyword.word j.kind, ?_,
    "JOIN".toList ++ ' ' :: (j.table.toList ++ ((onText j.conditions).toList ++ r)),
    by simp [spacedText_chars]⟩
  cases j.kind <;> decide

theorem stops_onText (cs : List JoinCondition) {rest : List Char} (h : Stops rest) :
    Stops ((onText cs).toList ++ rest) := by
  cases cs with
  | nil => exact h
  | cons c cs =>
    rw [onText_cons]
    exact stops_blank _

theorem readable_spacedText :
    Readable spacedText settled IsLegible (Ends ["ON", "AND", "OR"]) := by
  intro a b ha hb r s hr hs same
  simp only [spacedText_chars, List.cons_append, List.append_assoc] at same
  obtain ⟨kinds, same⟩ := readable_joinKind trivial trivial (stops_blank _) (stops_blank _)
    (List.cons.inj same).2
  have inner := List.append_cancel_left (List.cons.inj same).2
  obtain ⟨tables, rests⟩ := readable_token ha.table hb.table (stops_onText _ hr.stops)
    (stops_onText _ hs.stops) (List.cons.inj inner).2
  obtain ⟨conditions, ends⟩ := readable_onText ha.conditions hb.conditions hr hs rests
  cases a
  cases b
  cases kinds
  cases tables
  exact ⟨by rw [settled, settled, conditions], ends⟩

theorem spacedText_settled (j : Join) : j.settled.spacedText = j.spacedText := by
  have conditions : onText (settledConditions j.conditions) = onText j.conditions := by
    cases j.conditions <;> rfl
  rw [spacedText_chars, spacedText_chars, settled, conditions]

theorem readable_joins :
    Readable (List.flatMap spacedText) (List.map settled) (fun js => ∀ j ∈ js, j.IsLegible)
      (Ends ["INNER", "LEFT", "RIGHT", "CROSS", "ON", "AND", "OR"]) :=
  readable_spacedText.manyWords ["INNER", "LEFT", "RIGHT", "CROSS"] ["ON", "AND", "OR"] (by decide)
    (fun j _ => goesOn_spacedText j) (fun _ h => h)

end Join

/-! ## Orders -/

namespace Order

theorem readable_sql :
    Readable (fun o : Order => o.sql.toList) id (fun o => IsToken o.column) Stops := by
  intro a b ha hb r s hr hs same
  simp only [sql, String.toList_append, List.append_assoc] at same
  obtain ⟨columns, same⟩ := readable_token ha hb (stops_blank _) (stops_blank _) same
  obtain ⟨directions, ends⟩ := readable_direction trivial trivial hr hs (List.cons.inj same).2
  cases a
  cases b
  cases columns
  cases directions
  exact ⟨rfl, ends⟩

theorem clause_cons (o : Order) (rest : List Order) :
    spacedAfter (clause (o :: rest)) =
      ' ' :: ("ORDER".toList ++ ' ' :: ("BY ".toList ++
        (", ".intercalate ((o :: rest).map sql)).toList)) := by
  simp [spacedAfter, clause]

theorem goesOn_clause (o : Order) (rest : List Order) (s : List Char) :
    GoesOn ["ORDER"] (spacedAfter (clause (o :: rest)) ++ s) :=
  ⟨"ORDER", by simp, "BY ".toList ++ ((", ".intercalate ((o :: rest).map sql)).toList ++ s),
    by simp [clause_cons]⟩

theorem readable_clause :
    Readable (fun os => spacedAfter (clause os)) id (fun os => ∀ o ∈ os, IsToken o.column)
      (Ends ["ORDER"]) := by
  intro as bs ha hb r s hr hs same
  have nil := nil_iff_nil (fun os => spacedAfter (clause os)) "ORDER" (by decide) rfl
    goesOn_clause (by simp) hr hs same
  cases as with
  | nil =>
    obtain rfl := nil.mp rfl
    exact ⟨rfl, same⟩
  | cons a as =>
    cases bs with
    | nil => simp at nil
    | cons b bs =>
      simp only [clause_cons, List.cons_append, List.append_assoc] at same
      have inner := (List.cons.inj (List.append_cancel_left (List.cons.inj same).2)).2
      obtain ⟨orders, ends⟩ := readable_sql.commas stops_comma ⟨List.cons_ne_nil a as, ha⟩
        ⟨List.cons_ne_nil b bs, hb⟩ ⟨hr.stops, hr.head?_ne_comma⟩ ⟨hs.stops, hs.head?_ne_comma⟩
        (List.append_cancel_left inner)
      exact ⟨by simpa using orders, ends⟩

end Order

/-! ## Pages -/

def Value.IsNumber (v : Value) : Prop :=
  ∃ n, v = .int n

theorem readable_number : Readable (fun v : Value => v.plain.toList) id Value.IsNumber Stops := by
  rintro a b ⟨m, rfl⟩ ⟨n, rfl⟩ r s hr hs same
  obtain ⟨numbers, ends⟩ := readable_of_injective isToken_intText intText_injective trivial trivial
    hr hs same
  exact ⟨congrArg Value.int numbers, ends⟩

namespace Page

structure IsLegible (p : Page) : Prop where
  limit : ∀ v ∈ p.limit.toList, v.IsNumber
  offset : ∀ v ∈ p.offset.toList, v.IsNumber

def boundText (word : String) (v : Value) : List Char :=
  ' ' :: (word.toList ++ ' ' :: v.plain.toList)

theorem goesOn_boundText (word : String) (v : Value) (r : List Char) :
    GoesOn [word] (boundText word v ++ r) :=
  ⟨word, by simp, v.plain.toList ++ r, by simp [boundText]⟩

theorem readable_boundText (word : String) : Readable (boundText word) id Value.IsNumber Stops := by
  intro a b ha hb r s hr hs same
  simp only [boundText, List.cons_append, List.append_assoc] at same
  have inner := List.append_cancel_left (List.cons.inj same).2
  exact readable_number ha hb hr hs (List.cons.inj inner).2

theorem readable_bounds (word : String) (token : IsToken word) :
    Readable (List.flatMap (boundText word)) id (fun vs => ∀ v ∈ vs, v.IsNumber)
      (Ends [word]) := by
  have many := (readable_boundText word).manyWords [word] [] (by simpa using token)
    (fun v _ => goesOn_boundText word v) (fun _ => Ends.stops)
  simpa using many

theorem clause_chars (p : Page) :
    spacedAfter p.clause =
      p.limit.toList.flatMap (boundText "LIMIT") ++
        p.offset.toList.flatMap (boundText "OFFSET") := by
  obtain ⟨limit, offset⟩ := p
  cases limit <;> cases offset <;>
    simp [spacedAfter, clause, parts, boundText, String.intercalate_cons_cons]

theorem ends_bounds (word : String) (token : IsToken word) {words : List String}
    (other : word ∉ words) (vs : List Value) {rest : List Char} (h : Ends words rest) :
    Ends words (vs.flatMap (boundText word) ++ rest) :=
  follow_flatMap (fun v _ r => goesOn_boundText word v r)
    (fun _ goes => goes.ends (by simpa using ⟨token, other⟩)) (fun _ _ => trivial) h

theorem readable_clause :
    Readable (fun p => spacedAfter (clause p)) id IsLegible (Ends ["LIMIT", "OFFSET"]) := by
  intro a b ha hb r s hr hs same
  simp only [clause_chars, List.append_assoc] at same
  obtain ⟨limits, same⟩ := readable_bounds "LIMIT" (by decide) ha.limit hb.limit
    (ends_bounds "OFFSET" (by decide) (by decide) _ (hr.subset (by simp)))
    (ends_bounds "OFFSET" (by decide) (by decide) _ (hs.subset (by simp))) same
  obtain ⟨offsets, ends⟩ := readable_bounds "OFFSET" (by decide) ha.offset hb.offset
    (hr.subset (by simp)) (hs.subset (by simp)) same
  have limit : a.limit = b.limit := by simpa using congrArg List.head? limits
  have offset : a.offset = b.offset := by simpa using congrArg List.head? offsets
  cases a
  cases b
  cases limit
  cases offset
  exact ⟨rfl, ends⟩

end Page

end FluentSql
