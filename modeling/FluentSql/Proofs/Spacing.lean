import FluentSql.Proofs.DirectText
import FluentSql.Proofs.StatementParts
import FluentSql.Proofs.ValueErasure
import FluentSql.Proofs.WhereSentences
import Mathlib.Data.List.Chain

/-!
# Spaces in statements

A text is tidy if it is not empty and its spaces stand alone, between other
characters. A statement whose names and operators are tidy is tidy itself,
whichever of its clauses are there, but for one case: an update that assigns
nothing keeps the space behind its `SET`.
-/

set_option autoImplicit false

namespace FluentSql

/-! ## Tidy texts -/

def Apart (s : String) : Prop :=
  s.toList.IsChain fun c d => ¬(c = ' ' ∧ d = ' ')

instance (s : String) : Decidable (Apart s) :=
  inferInstanceAs (Decidable (s.toList.IsChain fun c d => ¬(c = ' ' ∧ d = ' ')))

/-- The text may stand behind a tidy one, and may begin with a space for that. -/
structure Tail (s : String) : Prop where
  apart : Apart s
  last : s.toList.getLast? ≠ some ' '

structure Tidy (s : String) : Prop extends Tail s where
  filled : s ≠ ""
  first : s.toList.head? ≠ some ' '

instance (s : String) : Decidable (Tail s) :=
  decidable_of_iff (Apart s ∧ s.toList.getLast? ≠ some ' ')
    ⟨fun h => ⟨h.1, h.2⟩, fun h => ⟨h.apart, h.last⟩⟩

instance (s : String) : Decidable (Tidy s) :=
  decidable_of_iff (Tail s ∧ s ≠ "" ∧ s.toList.head? ≠ some ' ')
    ⟨fun h => ⟨h.1, h.2.1, h.2.2⟩, fun h => ⟨h.toTail, h.filled, h.first⟩⟩

variable {s t : String}

theorem Tidy.chars (h : Tidy s) : s.toList ≠ [] :=
  fun empty => h.filled (String.toList_eq_nil_iff.mp empty)

theorem apart_append (hs : Apart s) (ht : Apart t)
    (between : s.toList.getLast? ≠ some ' ' ∨ t.toList.head? ≠ some ' ') : Apart (s ++ t) := by
  rw [Apart, String.toList_append, List.isChain_append]
  refine ⟨hs, ht, ?_⟩
  rintro c ends d begins ⟨rfl, rfl⟩
  rcases between with other | other
  · exact other ends
  · exact other begins

theorem Tail.append (hs : Tail s) (ht : Tail t) : Tail (s ++ t) := by
  refine ⟨apart_append hs.apart ht.apart (.inl hs.last), ?_⟩
  rw [String.toList_append, List.getLast?_append]
  cases ends : t.toList.getLast? with
  | none => simpa using hs.last
  | some c => simpa [ends] using ht.last

theorem Tidy.append (hs : Tidy s) (ht : Tail t) : Tidy (s ++ t) := by
  refine ⟨hs.toTail.append ht, by simp [hs.filled], ?_⟩
  rw [String.toList_append, List.head?_append_of_ne_nil _ hs.chars]
  exact hs.first

theorem Tidy.behind (hs : Apart s) (ht : Tidy t) : Tail (s ++ t) := by
  refine ⟨apart_append hs ht.apart (.inr ht.first), ?_⟩
  rw [String.toList_append, List.getLast?_append_of_ne_nil _ ht.chars]
  exact ht.last

theorem Tidy.led (hs : Apart s) (starts : s.toList.head? ≠ some ' ') (ht : Tidy t) :
    Tidy (s ++ t) := by
  refine ⟨ht.behind hs, by simp [ht.filled], ?_⟩
  rw [String.toList_append, List.head?_append]
  cases begins : s.toList.head? with
  | none => simpa using ht.first
  | some c => simpa [begins] using starts

theorem not_tidy_open (s t : String) :
    ¬Tidy (s ++ " " ++ String.ofList (Reading.spacedAfter t)) := by
  intro tidy
  by_cases empty : t.isEmpty
  · have last := tidy.last
    simp [Reading.spacedAfter, empty] at last
  · have apart := tidy.apart
    simp only [Apart, Reading.spacedAfter, empty, String.toList_append, String.toList_ofList,
      Bool.false_eq_true, if_false] at apart
    simp [List.isChain_append] at apart

/-! ## Lists of tidy texts -/

theorem tail_spacedAfter (h : t ≠ "" → Tidy t) :
    Tail (String.ofList (Reading.spacedAfter t)) := by
  by_cases empty : t = ""
  · subst empty
    decide
  · have space : Apart " " := by decide
    have text : String.ofList (Reading.spacedAfter t) = " " ++ t := by
      apply String.toList_injective
      simp [Reading.spacedAfter, empty]
    rw [text]
    exact (h empty).behind space

theorem tidy_intercalate {separator : String} (apart : ∀ s, Tidy s → Tail (separator ++ s))
    {parts : List String} (filled : parts ≠ []) (each : ∀ s ∈ parts, Tidy s) :
    Tidy (separator.intercalate parts) := by
  induction parts with
  | nil => exact absurd rfl filled
  | cons first rest ih =>
    rw [List.forall_mem_cons] at each
    cases rest with
    | nil => simpa using each.1
    | cons next rest =>
      rw [String.intercalate_cons_cons, String.append_assoc]
      exact each.1.append (apart _ (ih (List.cons_ne_nil _ _) each.2))

theorem Tidy.behind_space (h : Tidy s) : Tail (" " ++ s) :=
  h.behind (by decide)

theorem Tidy.behind_comma (h : Tidy s) : Tail (", " ++ s) :=
  h.behind (by decide)

theorem tidy_commas {parts : List String} (filled : parts ≠ []) (each : ∀ s ∈ parts, Tidy s) :
    Tidy (", ".intercalate parts) :=
  tidy_intercalate (fun _ => Tidy.behind_comma) filled each

theorem tail_commas {parts : List String} (each : ∀ s ∈ parts, Tidy s) :
    Tail (", ".intercalate parts) := by
  by_cases empty : parts = []
  · subst empty
    decide
  · exact (tidy_commas empty each).toTail

/-! ## Clauses -/

theorem tail_marks (values : List Value) : Tail (Where.marks values) := by
  apply tail_commas
  intro s hs
  obtain ⟨v, -, rfl⟩ := List.mem_map.mp hs
  decide

theorem tidy_leaf {c : Condition} {text : String} {values : List Value}
    (leaf : Where.Leaf c text values) (names : ∀ s ∈ c.rawTexts, Tidy s) : Tidy text := by
  cases leaf with
  | compare column operator value =>
    have operator : Tail (" " ++ operator ++ " ?") :=
      (names operator (by simp [Condition.rawTexts])).behind_space.append (by decide)
    simpa [String.append_assoc] using (names column (by simp [Condition.rawTexts])).append operator
  | oneOf column =>
    have list := ((by decide : Tail " IN (").append (tail_marks values)).append (t := ")") (by decide)
    simpa [String.append_assoc] using (names column (by simp [Condition.rawTexts])).append list
  | noneOf column =>
    have list :=
      ((by decide : Tail " NOT IN (").append (tail_marks values)).append (t := ")") (by decide)
    simpa [String.append_assoc] using (names column (by simp [Condition.rawTexts])).append list
  | isNull column => exact (names column (by simp [Condition.rawTexts])).append (by decide)
  | isNotNull column => exact (names column (by simp [Condition.rawTexts])).append (by decide)
  | between column low high => exact (names column (by simp [Condition.rawTexts])).append (by decide)
  | like column pattern => exact (names column (by simp [Condition.rawTexts])).append (by decide)

namespace Where

mutual

theorem tidy_body (w : Where) (names : ∀ s ∈ w.rawTexts, Tidy s) : Tidy w.body.sql := by
  cases w with
  | leaf _ condition => exact tidy_leaf (leaf_fragment condition) names
  | group _ members =>
    -- An empty group leaves only the parentheses.
    have inner := (tail_listed members names).append (t := ")") (by decide)
    have group : Tidy ("(" ++ ((listed members).sql ++ ")")) :=
      Tidy.append (by decide) inner
    simpa [body, Fragment.sql, Fragment.sql_append] using group

theorem tail_listed (ws : List Where) (names : ∀ s ∈ rawTextsAll ws, Tidy s) :
    Tail (listed ws).sql := by
  cases ws with
  | nil => decide
  | cons w rest =>
    have first := tidy_body w fun s hs => names s (by simp [rawTextsAll, hs])
    have others := tail_continued rest fun s hs => names s (by simp [rawTextsAll, hs])
    rw [listed, Fragment.sql_append]
    exact (first.append others).toTail

theorem tail_continued (ws : List Where) (names : ∀ s ∈ rawTextsAll ws, Tidy s) :
    Tail (continued ws).sql := by
  cases ws with
  | nil => decide
  | cons w rest =>
    have first := tidy_body w fun s hs => names s (by simp [rawTextsAll, hs])
    have others := tail_continued rest fun s hs => names s (by simp [rawTextsAll, hs])
    have word : Apart (" " ++ w.connectiveText) := by
      unfold connectiveText
      cases w.connective <;> decide
    rw [continued, Fragment.sql, Fragment.sql_append, ← String.append_assoc]
    exact (first.behind word).append others

end

theorem tidy_clause {ws : List Where} (names : ∀ s ∈ rawTextsAll ws, Tidy s)
    (filled : (clause ws).sql ≠ "") : Tidy (clause ws).sql := by
  cases ws with
  | nil => exact absurd rfl filled
  | cons w rest =>
    have first := tidy_body w fun s hs => names s (by simp [rawTextsAll, hs])
    have others := tail_continued rest fun s hs => names s (by simp [rawTextsAll, hs])
    have text : (clause (w :: rest)).sql = "WHERE " ++ (listed (w :: rest)).sql := rfl
    rw [text, listed, Fragment.sql_append]
    exact Tidy.led (by decide) (by decide) (first.append others)

end Where

namespace Join

theorem tidy_conditionText (c : JoinCondition) (names : ∀ s ∈ c.rawTexts, Tidy s) :
    Tidy (conditionText c) := by
  have left := names c.left (by simp [JoinCondition.rawTexts])
  have operator := names c.operator (by simp [JoinCondition.rawTexts])
  have right := names c.right (by simp [JoinCondition.rawTexts])
  have text : conditionText c = c.left ++ ((" " ++ c.operator) ++ (" " ++ c.right)) := by
    simp [conditionText, String.append_assoc]
  rw [text]
  exact left.append (operator.behind_space.append right.behind_space)

theorem tail_continued (cs : List JoinCondition)
    (names : ∀ s ∈ cs.flatMap JoinCondition.rawTexts, Tidy s) : Tail (continued cs) := by
  induction cs with
  | nil => decide
  | cons c rest ih =>
    have word : Apart (" " ++ Keyword.word c.connective ++ " ") := by
      cases c.connective <;> decide
    have first := tidy_conditionText c fun s hs => names s (by simp [hs])
    have others := ih fun s hs => names s (by
      rw [List.flatMap_cons]
      exact List.mem_append_right _ hs)
    exact (first.behind word).append others

theorem tidy_sql (j : Join) (names : ∀ s ∈ j.rawTexts, Tidy s) : Tidy j.sql := by
  have word : Apart (Keyword.word j.kind ++ " JOIN ") := by cases j.kind <;> decide
  have starts : (Keyword.word j.kind ++ " JOIN ").toList.head? ≠ some ' ' := by
    cases j.kind <;> decide
  have target := Tidy.led word starts (names j.table (by simp [rawTexts]))
  have conditions : ∀ s ∈ j.conditions.flatMap JoinCondition.rawTexts, Tidy s :=
    fun s hs => names s (List.mem_cons_of_mem _ hs)
  refine target.append ?_
  cases found : j.conditions with
  | nil => decide
  | cons c rest =>
    rw [found, List.flatMap_cons] at conditions
    have first := tidy_conditionText c fun s hs => conditions s (List.mem_append_left _ hs)
    have others := tail_continued rest fun s hs => conditions s (List.mem_append_right _ hs)
    have on : Apart " ON " := by decide
    exact (first.behind on).append others

theorem tail_joins (js : List Join) (names : ∀ s ∈ js.flatMap rawTexts, Tidy s) :
    Tail (String.ofList (js.flatMap spacedText)) := by
  induction js with
  | nil => decide
  | cons j js ih =>
    rw [List.flatMap_cons] at names
    have first := j.tidy_sql fun s hs => names s (List.mem_append_left _ hs)
    have others := ih fun s hs => names s (List.mem_append_right _ hs)
    have text : String.ofList ((j :: js).flatMap spacedText) =
        " " ++ j.sql ++ String.ofList (js.flatMap spacedText) := by
      apply String.toList_injective
      simp [spacedText]
    rw [text]
    exact first.behind_space.append others

end Join

theorem Order.tidy_clause {orders : List Order} (names : ∀ o ∈ orders, Tidy o.column)
    (filled : Order.clause orders ≠ "") : Tidy (Order.clause orders) := by
  have each : ∀ s ∈ orders.map Order.sql, Tidy s := by
    intro s hs
    obtain ⟨o, ho, rfl⟩ := List.mem_map.mp hs
    have word : Tail (" " ++ Keyword.word o.direction) := by cases o.direction <;> decide
    rw [Order.sql, String.append_assoc]
    exact (names o ho).append word
  cases orders with
  | nil => exact absurd rfl filled
  | cons first rest =>
    exact Tidy.led (by decide) (by decide) (tidy_commas (List.cons_ne_nil _ _) each)

theorem Page.tidy_clause {p : Page} (names : ∀ s ∈ p.rawTexts, Tidy s)
    (filled : p.clause ≠ "") : Tidy p.clause := by
  have each : ∀ s ∈ p.parts, Tidy s := by
    have bound (word : String) (apart : Apart word) (starts : word.toList.head? ≠ some ' ')
        (v : Value) (hv : v.plain ∈ p.rawTexts) : Tidy (word ++ v.plain) :=
      Tidy.led apart starts (names _ hv)
    intro s hs
    rw [parts, List.mem_append, Option.mem_toList, Option.mem_toList] at hs
    rcases hs with hs | hs
    · obtain ⟨v, hv, rfl⟩ := Option.map_eq_some_iff.mp hs
      exact bound "LIMIT " (by decide) (by decide) v (by simp [rawTexts, hv])
    · obtain ⟨v, hv, rfl⟩ := Option.map_eq_some_iff.mp hs
      exact bound "OFFSET " (by decide) (by decide) v (by simp [rawTexts, hv])
  apply tidy_intercalate (fun _ => Tidy.behind_space) _ each
  intro none
  rw [clause, none] at filled
  exact absurd rfl filled

/-! ## Statements -/

theorem tidy_number (n : Int) : Tidy (Value.int n).plain := by
  show Tidy (Value.intText n)
  have spaceless : ' ' ∉ (Value.intText n).toList := by
    intro member
    exact absurd (Reading.isToken_intText n ' ' member) (by decide)
  have filled : Value.intText n ≠ "" := by
    intro empty
    have none : Text.integer n = [] := by
      simpa [Value.intText] using congrArg String.toList empty
    unfold Text.integer at none
    split at none
    · cases none
    · exact Text.natural_ne_nil _ none
  refine ⟨⟨?_, fun ends => spaceless (List.mem_of_getLast? ends)⟩, filled,
    fun begins => spaceless (List.mem_of_head? begins)⟩
  rw [Apart, List.isChain_iff_forall_rel_of_append_cons_cons]
  rintro c d before after whole ⟨rfl, -⟩
  exact spaceless (by simp [whole])

namespace Query

/-- Columns and the keys of assignments are named by texts, every name and operator is tidy, and a
bound is a whole number or another value with a tidy text. -/
structure IsTidy (q : Query) : Prop where
  named : q.Named
  names : ∀ s ∈ { q with page := {} }.rawTexts, Tidy s
  bounds : ∀ v ∈ q.page.limit.toList ++ q.page.offset.toList, v.IsNumber ∨ Tidy v.plain

variable {q : Query}

theorem IsTidy.table (h : q.IsTidy) : Tidy q.tableText :=
  h.names _ (.head _)

theorem IsTidy.keys (h : q.IsTidy) : ∀ s ∈ q.assignments.map fun e => e.1.plain, Tidy s :=
  fun s hs => h.names s (by simp only [rawTexts, List.mem_cons, List.mem_append, hs]; simp)

theorem IsTidy.tail_wheres (h : q.IsTidy) :
    Tail (String.ofList (Reading.spacedAfter (Where.clause q.wheres).sql)) :=
  tail_spacedAfter (Where.tidy_clause fun s hs => h.names s (by simp [rawTexts, hs]))

theorem IsTidy.tail_joinTail (h : q.IsTidy) : Tail (String.ofList q.joinTail) := by
  have joins : Tail (String.ofList (q.joins.flatMap Join.spacedText)) := by
    apply Join.tail_joins
    intro s hs
    exact h.names s (by simp only [rawTexts, List.mem_cons, List.mem_append, hs]; simp)
  have orders : Tail (String.ofList (Reading.spacedAfter (Order.clause q.orders))) := by
    refine tail_spacedAfter (Order.tidy_clause fun o ho => ?_)
    have member : o.column ∈ q.orders.map Order.column := List.mem_map_of_mem ho
    exact h.names _ (by simp only [rawTexts, List.mem_cons, List.mem_append, member]; simp)
  have page : Tail (String.ofList (Reading.spacedAfter q.page.clause)) := by
    refine tail_spacedAfter (Page.tidy_clause fun s hs => ?_)
    obtain ⟨v, hv, rfl⟩ := List.mem_map.mp hs
    rcases h.bounds v hv with ⟨n, rfl⟩ | tidy
    · exact tidy_number n
    · exact tidy
  have text : String.ofList q.joinTail = String.ofList (q.joins.flatMap Join.spacedText) ++
      (String.ofList (Reading.spacedAfter (Where.clause q.wheres).sql) ++
        (String.ofList (Reading.spacedAfter (Order.clause q.orders)) ++
          String.ofList (Reading.spacedAfter q.page.clause))) := by
    apply String.toList_injective
    simp [joinTail, whereTail, orderTail, pageTail]
  rw [text]
  exact joins.append (h.tail_wheres.append (orders.append page))

theorem IsTidy.columns (h : q.IsTidy) : Tidy q.writtenColumns := by
  have each : ∀ s ∈ q.columns.map Value.plain, Tidy s := by
    intro s hs
    exact h.names s (by simp only [rawTexts, List.mem_cons, List.mem_append, hs]; simp)
  rw [writtenColumns]
  by_cases all : q.columns.isEmpty = true
  · rw [if_pos all]
    decide
  · rw [if_neg all]
    exact tidy_commas (by simpa using all) each

theorem sql_assignments (entries : List (Value × Value)) :
    (Fragment.joined ", " (entries.map assignment)).sql =
      ", ".intercalate (entries.map fun e => e.1.plain ++ " = ?") := by
  rw [Fragment.sql_joined, List.map_map]
  congr 1
  apply List.map_congr_left
  intro e _
  simp [assignment, Fragment.sql, String.append_assoc]

theorem tidy_assignments (h : q.IsTidy) (filled : q.assignments ≠ []) :
    Tidy (Fragment.joined ", " (q.assignments.map assignment)).sql := by
  have each : ∀ s ∈ q.assignments.map fun e => e.1.plain ++ " = ?", Tidy s := by
    intro s hs
    obtain ⟨e, he, rfl⟩ := List.mem_map.mp hs
    exact (h.keys _ (List.mem_map_of_mem he)).append (by decide)
  rw [sql_assignments]
  exact tidy_commas (by simpa using filled) each

/-- A statement of tidy names is tidy, unless it is an update that assigns nothing: that one has a
space behind its `SET`, at the end or before the space of the where clause. -/
theorem tidy_statement_iff (q : Query) (h : q.IsTidy) :
    ∃ sql, q.prepared = .ok (sql, q.bindings) ∧
      (Tidy sql ↔ ¬(q.kind = .update ∧ q.assignments = [])) := by
  have text {listing : String} (written : q.listing = .ok listing) :
      q.prepared = .ok (q.opening ++ listing ++ q.closing, q.bindings) := by
    rw [prepared_eq_parts, written]
    rfl
  cases kind : q.kind with
  | select =>
    have columns : q.listing = .ok q.writtenColumns := by
      simp only [listing, kind, columnText_of_names h.named.columns]
    have tidy : Tidy ("SELECT " ++ (q.writtenColumns ++ (" FROM " ++ q.tableText
        ++ String.ofList q.joinTail))) :=
      Tidy.led (by decide) (by decide)
        (h.columns.append ((h.table.behind (by decide)).append h.tail_joinTail))
    refine ⟨_, text columns, ?_⟩
    simpa [opening, closing, kind, String.append_assoc] using tidy
  | insert =>
    have columns : q.listing = .ok (", ".intercalate (q.assignments.map fun e => e.1.plain)) := by
      simp only [listing, kind, keyTexts_of_names h.named.keys]
      rfl
    have tidy : Tidy ("INSERT INTO " ++ (q.tableText ++ (" (" ++
        (", ".intercalate (q.assignments.map fun e => e.1.plain) ++ (") VALUES (" ++
          (Where.marks (q.assignments.map Prod.snd) ++ ")")))))) :=
      Tidy.led (by decide) (by decide) (h.table.append ((by decide : Tail " (").append
        ((tail_commas h.keys).append ((by decide : Tail ") VALUES (").append
          ((tail_marks _).append (by decide))))))
    refine ⟨_, text columns, ?_⟩
    simpa [opening, closing, kind, Fragment.sql_holes, Where.marks, String.append_assoc] using tidy
  | update =>
    have columns : q.listing =
        .ok (Fragment.joined ", " (q.assignments.map assignment)).sql := by
      simp only [listing, kind]
    refine ⟨_, text columns, ?_⟩
    by_cases none : q.assignments = []
    · have untidy := not_tidy_open ("UPDATE " ++ q.tableText ++ " SET") (Where.clause q.wheres).sql
      have space : " SET " = " SET" ++ " " := by decide
      simpa [opening, closing, kind, none, Fragment.joined, Fragment.sql, space,
        String.append_assoc] using untidy
    · have tidy : Tidy ("UPDATE " ++ (q.tableText ++ (" SET " ++
          (Fragment.joined ", " (q.assignments.map assignment)).sql) ++
            String.ofList (Reading.spacedAfter (Where.clause q.wheres).sql))) :=
        Tidy.led (by decide) (by decide) ((h.table.append
          ((tidy_assignments h none).behind (by decide))).append h.tail_wheres)
      simpa [opening, closing, kind, none, String.append_assoc] using tidy
  | delete =>
    have columns : q.listing = .ok "" := by simp only [listing, kind]
    have tidy : Tidy ("DELETE FROM " ++ (q.tableText ++
        String.ofList (Reading.spacedAfter (Where.clause q.wheres).sql))) :=
      Tidy.led (by decide) (by decide) (h.table.append h.tail_wheres)
    refine ⟨_, text columns, ?_⟩
    simpa [opening, closing, kind, String.append_assoc] using tidy

def emptyUpdate : Query where
  table := .text "users"
  kind := .update
  wheres := [.leaf .and (.compare "id" "=" (.int 1))]

/-- Clauses of every kind, an empty group and an empty list of values among them. -/
def memberSearch : Query where
  table := .text "users"
  columns := [.text "users.id", .text "COUNT(*) AS total"]
  wheres := [
    .leaf .and (.oneOf "role" []),
    .group .or [.group .and [], .leaf .or (.between "age" (.int 18) (.int 65))]]
  joins := [⟨.left, "teams", [⟨.and, "teams.id", "=", "users.team_id"⟩, ⟨.or, "a", "<", "b"⟩]⟩]
  orders := [⟨"name", .ascending⟩, ⟨"id", .descending⟩]
  page := ⟨some (.int 10), some (.int 20)⟩

theorem emptyUpdate_untidy :
    (emptyUpdate.IsTidy ∧ ∃ sql, emptyUpdate.prepared = .ok (sql, emptyUpdate.bindings) ∧
      ¬Tidy sql ∧ sql = "UPDATE users SET  WHERE id = ?") ∧
    (memberSearch.IsTidy ∧ ∃ sql, memberSearch.prepared = .ok (sql, memberSearch.bindings) ∧
      Tidy sql) := by
  have update : emptyUpdate.IsTidy :=
    ⟨⟨⟨["*"], rfl⟩, ⟨[], rfl⟩⟩, by decide, by simp [emptyUpdate]⟩
  have search : memberSearch.IsTidy :=
    ⟨⟨⟨["users.id", "COUNT(*) AS total"], rfl⟩, ⟨[], rfl⟩⟩, by decide,
      by simp [memberSearch, Value.IsNumber]⟩
  refine ⟨⟨update, ?_⟩, search, ?_⟩
  · obtain ⟨sql, prepared, tidy⟩ := tidy_statement_iff emptyUpdate update
    have text : sql = "UPDATE users SET  WHERE id = ?" := by
      have parts := prepared_eq_parts emptyUpdate
      rw [prepared] at parts
      have same := (Prod.mk.inj (Except.ok.inj parts)).1
      rw [same]
      decide +kernel
    exact ⟨sql, prepared, fun h => tidy.mp h ⟨rfl, rfl⟩, text⟩
  · obtain ⟨sql, prepared, tidy⟩ := tidy_statement_iff memberSearch search
    exact ⟨sql, prepared, tidy.mpr (by decide)⟩

end Query

end FluentSql
