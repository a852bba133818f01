import FluentSql.Proofs.Holes
import FluentSql.Query.Statement

/-!
# Statements with their values in place

A query's text and its list of values come from two separate walks over its
clauses. Here a query is written a third time, without placeholders, each
value's literal directly in its own place. If the raw texts of the query are
contained, the placeholders of its statement are as many as its values, and
filling them in order gives the directly written text. Nothing is assumed
about the values.
-/

set_option autoImplicit false

namespace FluentSql

/-! ## Raw texts -/

def Condition.rawTexts : Condition → List String
  | compare column operator _ => [column, operator]
  | oneOf column _ | noneOf column _ | isNull column | isNotNull column
  | between column _ _ | like column _ => [column]

namespace Where

mutual

def rawTexts : Where → List String
  | leaf _ condition => condition.rawTexts
  | group _ members => rawTextsAll members

def rawTextsAll : List Where → List String
  | [] => []
  | w :: rest => rawTexts w ++ rawTextsAll rest

end

end Where

def JoinCondition.rawTexts (c : JoinCondition) : List String :=
  [c.left, c.operator, c.right]

def Join.rawTexts (j : Join) : List String :=
  j.table :: j.conditions.flatMap JoinCondition.rawTexts

def Page.rawTexts (p : Page) : List String :=
  (p.limit.toList ++ p.offset.toList).map Value.plain

def Query.rawTexts (q : Query) : List String :=
  q.tableText :: (q.columns.map Value.plain ++ Where.rawTextsAll q.wheres
    ++ q.joins.flatMap Join.rawTexts ++ q.orders.map Order.column ++ q.page.rawTexts
    ++ q.assignments.map fun entry => entry.1.plain)

/-- Columns are named by texts, and every raw text keeps to itself. -/
structure Query.SelfContained (q : Query) : Prop where
  columns : ∃ names : List String, q.columns = names.map Value.text
  keys : ∃ names : List String, q.assignments.map Prod.fst = names.map Value.text
  rawTexts : ∀ s ∈ q.rawTexts, Bare s

/-! ## Writing directly -/

def Condition.written (style : LiteralStyle) : Condition → String
  | compare column operator value => column ++ " " ++ operator ++ " " ++ style.value value
  | oneOf column values => column ++ " IN (" ++ ", ".intercalate (values.map style.value) ++ ")"
  | noneOf column values =>
    column ++ " NOT IN (" ++ ", ".intercalate (values.map style.value) ++ ")"
  | isNull column => column ++ " IS NULL"
  | isNotNull column => column ++ " IS NOT NULL"
  | between column low high =>
    column ++ " BETWEEN " ++ style.value low ++ " AND " ++ style.value high
  | like column pattern => column ++ " LIKE " ++ style.value pattern

namespace Where

mutual

def written (style : LiteralStyle) : Where → String
  | leaf _ condition => condition.written style
  | group _ members => "(" ++ " ".intercalate (writtenAll style members) ++ ")"

def writtenAll (style : LiteralStyle) : List Where → List String
  | [] => []
  | w :: rest => written style w :: writtenRest style rest

def writtenRest (style : LiteralStyle) : List Where → List String
  | [] => []
  | w :: rest => (Keyword.word w.connective ++ " " ++ written style w) :: writtenRest style rest

end

def writtenClause (style : LiteralStyle) : List Where → String
  | [] => ""
  | wheres => "WHERE " ++ " ".intercalate (writtenAll style wheres)

end Where

namespace Query

def writtenColumns (q : Query) : String :=
  if q.columns.isEmpty then "*" else ", ".intercalate (q.columns.map Value.plain)

def writtenAssignment (style : LiteralStyle) (entry : Value × Value) : String :=
  entry.1.plain ++ " = " ++ style.value entry.2

def writtenSelect (style : LiteralStyle) (q : Query) : String :=
  spacedTexts [
    "SELECT " ++ q.writtenColumns ++ " FROM " ++ q.tableText, q.joinText,
    Where.writtenClause style q.wheres, Order.clause q.orders, q.page.clause]

def writtenInsert (style : LiteralStyle) (q : Query) : String :=
  "INSERT INTO " ++ q.tableText
    ++ " (" ++ ", ".intercalate (q.assignments.map fun entry => entry.1.plain)
    ++ ") VALUES (" ++ ", ".intercalate (q.assignments.map fun entry => style.value entry.2) ++ ")"

def writtenUpdate (style : LiteralStyle) (q : Query) : String :=
  spacedTexts [
    "UPDATE " ++ q.tableText ++ " SET "
      ++ ", ".intercalate (q.assignments.map (writtenAssignment style)),
    Where.writtenClause style q.wheres]

def writtenDelete (style : LiteralStyle) (q : Query) : String :=
  spacedTexts ["DELETE FROM " ++ q.tableText, Where.writtenClause style q.wheres]

/-- The statement with every value's literal in its own place. -/
def written (style : LiteralStyle) (q : Query) : String :=
  match q.kind with
  | .select => q.writtenSelect style
  | .insert => q.writtenInsert style
  | .update => q.writtenUpdate style
  | .delete => q.writtenDelete style

end Query

/-! ## Conditions and groups -/

namespace Condition

theorem contained_fragment (c : Condition) (h : ∀ s ∈ c.rawTexts, Bare s) :
    c.fragment.Contained := by
  have none := Fragment.contained_nil
  cases c with
  | compare column operator value =>
    have text : Bare (column ++ " " ++ operator ++ " ") :=
      (((h column (by simp [rawTexts])).append (by decide)).append
        (h operator (by simp [rawTexts]))).append (by decide)
    exact (none.hole value).sql text
  | oneOf column values =>
    have text := (h column (by simp [rawTexts])).append (t := " IN (") (by decide)
    exact ((Fragment.contained_holes values).append (none.sql (by decide))).sql text
  | noneOf column values =>
    have text := (h column (by simp [rawTexts])).append (t := " NOT IN (") (by decide)
    exact ((Fragment.contained_holes values).append (none.sql (by decide))).sql text
  | isNull column =>
    have text := (h column (by simp [rawTexts])).append (t := " IS NULL") (by decide)
    exact none.sql text
  | isNotNull column =>
    have text := (h column (by simp [rawTexts])).append (t := " IS NOT NULL") (by decide)
    exact none.sql text
  | between column low high =>
    have text := (h column (by simp [rawTexts])).append (t := " BETWEEN ") (by decide)
    exact (((none.hole high).sql (by decide)).hole low).sql text
  | like column pattern =>
    have text := (h column (by simp [rawTexts])).append (t := " LIKE ") (by decide)
    exact (none.hole pattern).sql text

theorem inlined_fragment (style : LiteralStyle) (c : Condition) :
    c.fragment.inlined style = c.written style := by
  cases c <;>
    simp [fragment, written, Fragment.inlined, Fragment.inlined_append, Fragment.inlined_holes,
      String.append_assoc]

end Condition

namespace Where

theorem bare_connectiveText (w : Where) : Bare (" " ++ w.connectiveText) := by
  unfold connectiveText
  cases w.connective <;> decide

mutual

theorem contained_body (w : Where) (h : ∀ s ∈ w.rawTexts, Bare s) : w.body.Contained := by
  cases w with
  | leaf _ condition => exact condition.contained_fragment h
  | group _ members =>
    have inner := contained_listed members h
    exact (inner.append (Fragment.contained_nil.sql (by decide))).sql (by decide)

theorem contained_listed (ws : List Where) (h : ∀ s ∈ rawTextsAll ws, Bare s) :
    (listed ws).Contained := by
  cases ws with
  | nil => exact Fragment.contained_nil
  | cons w rest =>
    have first := contained_body w (fun s hs => h s (by simp [rawTextsAll, hs]))
    exact first.append (contained_continued rest fun s hs => h s (by simp [rawTextsAll, hs]))

theorem contained_continued (ws : List Where) (h : ∀ s ∈ rawTextsAll ws, Bare s) :
    (continued ws).Contained := by
  cases ws with
  | nil => exact Fragment.contained_nil
  | cons w rest =>
    have first := contained_body w (fun s hs => h s (by simp [rawTextsAll, hs]))
    have others := contained_continued rest (fun s hs => h s (by simp [rawTextsAll, hs]))
    exact (first.append others).sql w.bare_connectiveText

end

mutual

theorem bindings_body (w : Where) : w.body.bindings = w.values := by
  cases w with
  | leaf _ condition => exact condition.bindings_fragment
  | group _ members =>
    simp [body, values, Fragment.bindings, Fragment.bindings_append, bindings_listed members]

theorem bindings_listed (ws : List Where) : (listed ws).bindings = valuesAll ws := by
  cases ws with
  | nil => rfl
  | cons w rest =>
    rw [listed, valuesAll, Fragment.bindings_append, bindings_body w, bindings_continued rest]

theorem bindings_continued (ws : List Where) : (continued ws).bindings = valuesAll ws := by
  cases ws with
  | nil => rfl
  | cons w rest =>
    rw [continued, valuesAll, Fragment.bindings, Fragment.bindings_append, bindings_body w,
      bindings_continued rest]

end

mutual

theorem inlined_body (style : LiteralStyle) (w : Where) :
    w.body.inlined style = w.written style := by
  cases w with
  | leaf _ condition => exact condition.inlined_fragment style
  | group _ members =>
    simp [body, written, Fragment.inlined, Fragment.inlined_append, inlined_listed style members,
      String.append_assoc]

theorem inlined_listed (style : LiteralStyle) (ws : List Where) :
    (listed ws).inlined style = " ".intercalate (writtenAll style ws) := by
  cases ws with
  | nil => simp [listed, writtenAll, Fragment.inlined]
  | cons w rest =>
    rw [listed, writtenAll, Fragment.inlined_append, inlined_body style w,
      inlined_continued style rest]

/-- What follows a clause of a list; that clause is any text here, for the induction. -/
theorem inlined_continued (style : LiteralStyle) (ws : List Where) (first : String) :
    first ++ (continued ws).inlined style = " ".intercalate (first :: writtenRest style ws) := by
  cases ws with
  | nil => simp [continued, writtenRest, Fragment.inlined]
  | cons w rest =>
    have others := inlined_continued style rest (w.connectiveText ++ w.written style)
    rw [continued, writtenRest, Fragment.inlined, Fragment.inlined_append, inlined_body style w,
      String.intercalate_cons_cons, ← connectiveText, ← others]
    simp only [String.append_assoc]

end

end Where

/-! ## Clauses without values -/

namespace Join

theorem bare_conditionText (c : JoinCondition) (h : ∀ s ∈ c.rawTexts, Bare s) :
    Bare (conditionText c) :=
  ((((h c.left (by simp [JoinCondition.rawTexts])).append (by decide)).append
    (h c.operator (by simp [JoinCondition.rawTexts]))).append (by decide)).append
    (h c.right (by simp [JoinCondition.rawTexts]))

theorem bare_continued (cs : List JoinCondition)
    (h : ∀ s ∈ cs.flatMap JoinCondition.rawTexts, Bare s) : Bare (continued cs) := by
  induction cs with
  | nil => decide
  | cons c rest ih =>
    have word : Bare (" " ++ Keyword.word c.connective ++ " ") := by
      cases c.connective <;> decide
    have first := bare_conditionText c (fun s hs => h s (by simp [hs]))
    have others := ih (fun s hs => h s (by
      rw [List.flatMap_cons]
      exact List.mem_append_right _ hs))
    exact (word.append first).append others

theorem bare_sql (j : Join) (h : ∀ s ∈ j.rawTexts, Bare s) : Bare j.sql := by
  have word : Bare (Keyword.word j.kind ++ " JOIN ") := by cases j.kind <;> decide
  have target := word.append (h j.table (by simp [rawTexts]))
  refine target.append ?_
  have hc : ∀ s ∈ j.conditions.flatMap JoinCondition.rawTexts, Bare s :=
    fun s hs => h s (List.mem_cons_of_mem _ hs)
  cases found : j.conditions with
  | nil => decide
  | cons c rest =>
    rw [found] at hc
    have start : Bare " ON " := by decide
    have first := bare_conditionText c (fun s hs => hc s (by simp [hs]))
    have others := bare_continued rest
      (fun s hs => hc s (by rw [List.flatMap_cons]; exact List.mem_append_right _ hs))
    exact (start.append first).append others

end Join

theorem Order.bare_clause (orders : List Order) (h : ∀ o ∈ orders, Bare o.column) :
    Bare (Order.clause orders) := by
  cases orders with
  | nil => decide
  | cons first rest =>
    have start : Bare "ORDER BY " := by decide
    refine start.append (bare_intercalate _ (by decide) _ ?_)
    intro s hs
    obtain ⟨o, ho, rfl⟩ := List.mem_map.mp hs
    have word : Bare (Keyword.word o.direction) := by cases o.direction <;> decide
    exact ((h o ho).append (by decide)).append word

theorem Page.bare_clause (p : Page) (h : ∀ s ∈ p.rawTexts, Bare s) : Bare p.clause := by
  apply bare_intercalate _ (by decide)
  intro s hs
  have bound (word : String) (hw : Bare word) (v : Value) (hv : v.plain ∈ p.rawTexts) :
      Bare (word ++ v.plain) := hw.append (h _ hv)
  rw [parts, List.mem_append, Option.mem_toList, Option.mem_toList] at hs
  rcases hs with hs | hs
  · obtain ⟨v, hv, rfl⟩ := Option.map_eq_some_iff.mp hs
    exact bound "LIMIT " (by decide) v (by simp [rawTexts, hv])
  · obtain ⟨v, hv, rfl⟩ := Option.map_eq_some_iff.mp hs
    exact bound "OFFSET " (by decide) v (by simp [rawTexts, hv])

/-! ## Statements -/

namespace Where

theorem contained_clause (ws : List Where) (h : ∀ s ∈ rawTextsAll ws, Bare s) :
    (clause ws).Contained := by
  cases ws with
  | nil => exact Fragment.contained_nil
  | cons w rest => exact (contained_listed (w :: rest) h).sql (by decide)

theorem bindings_clause (ws : List Where) : (clause ws).bindings = valuesAll ws := by
  cases ws with
  | nil => rfl
  | cons w rest => exact bindings_listed (w :: rest)

theorem inlined_clause (style : LiteralStyle) (ws : List Where) :
    (clause ws).inlined style = writtenClause style ws := by
  cases ws with
  | nil => rfl
  | cons w rest => exact congrArg ("WHERE " ++ ·) (inlined_listed style (w :: rest))

theorem isEmpty_clause (style : LiteralStyle) (ws : List Where) :
    (clause ws).isEmpty = ((clause ws).inlined style).isEmpty := by
  cases ws with
  | nil => rfl
  | cons w rest => simp [clause, Fragment.inlined]

end Where

namespace Query

variable {q : Query}

theorem columnText_of_names (h : ∃ names : List String, q.columns = names.map Value.text) :
    q.columnText = .ok q.writtenColumns := by
  obtain ⟨names, hn⟩ := h
  have plain : (names.map Value.text).map Value.plain = names := by
    rw [List.map_map]
    exact List.map_id names
  unfold Query.columnText writtenColumns
  rw [hn]
  cases names with
  | nil => rfl
  | cons name rest =>
    rw [plain]
    simp only [List.map_cons, List.isEmpty_cons]
    rw [← List.map_cons, Value.texts_map_text]
    rfl

theorem keyTexts_of_names
    (h : ∃ names : List String, q.assignments.map Prod.fst = names.map Value.text) :
    Value.texts (q.assignments.map Prod.fst) = .ok (q.assignments.map fun e => e.1.plain) := by
  obtain ⟨names, hn⟩ := h
  have plain : q.assignments.map (fun e => e.1.plain) = names := by
    have mapped := congrArg (List.map Value.plain) hn
    rw [List.map_map, List.map_map] at mapped
    rw [show (fun e : Value × Value => e.1.plain) = Value.plain ∘ Prod.fst from rfl, mapped]
    exact List.map_id names
  rw [hn, Value.texts_map_text, plain]

theorem SelfContained.wheres (h : q.SelfContained) : ∀ s ∈ Where.rawTextsAll q.wheres, Bare s :=
  fun s hs => h.rawTexts s (by simp [Query.rawTexts, hs])

theorem SelfContained.table (h : q.SelfContained) : Bare q.tableText :=
  h.rawTexts _ (by simp [Query.rawTexts])

theorem SelfContained.bare_writtenColumns (h : q.SelfContained) : Bare q.writtenColumns := by
  unfold writtenColumns
  split
  · decide
  · apply bare_intercalate _ (by decide)
    intro s hs
    exact h.rawTexts s (by simp only [Query.rawTexts, List.mem_cons, List.mem_append, hs]; simp)

theorem SelfContained.bare_joinText (h : q.SelfContained) : Bare q.joinText := by
  apply bare_intercalate _ (by decide)
  intro s hs
  obtain ⟨j, hj, rfl⟩ := List.mem_map.mp hs
  apply j.bare_sql
  intro t ht
  have mem : t ∈ q.joins.flatMap Join.rawTexts := List.mem_flatMap.mpr ⟨j, hj, ht⟩
  exact h.rawTexts t (by simp only [Query.rawTexts, List.mem_cons, List.mem_append, mem]; simp)

theorem SelfContained.bare_key (h : q.SelfContained) {entry : Value × Value}
    (he : entry ∈ q.assignments) : Bare entry.1.plain := by
  have mem : entry.1.plain ∈ q.assignments.map fun e => e.1.plain := List.mem_map_of_mem he
  exact h.rawTexts _ (by simp only [Query.rawTexts, List.mem_cons, List.mem_append, mem]; simp)

theorem SelfContained.bare_orders (h : q.SelfContained) : Bare (Order.clause q.orders) := by
  apply Order.bare_clause
  intro o ho
  have mem : o.column ∈ q.orders.map Order.column := List.mem_map_of_mem ho
  exact h.rawTexts _ (by simp only [Query.rawTexts, List.mem_cons, List.mem_append, mem]; simp)

theorem SelfContained.bare_page (h : q.SelfContained) : Bare q.page.clause := by
  apply Page.bare_clause
  intro s hs
  exact h.rawTexts s (by simp only [Query.rawTexts, List.mem_cons, List.mem_append, hs]; simp)

theorem SelfContained.select_fills (h : q.SelfContained) :
    ∃ f, q.select = .ok f ∧ f.Fills q.whereBindings q.writtenSelect := by
  have head : Bare ("SELECT " ++ q.writtenColumns ++ " FROM " ++ q.tableText) :=
    (((by decide : Bare "SELECT ").append h.bare_writtenColumns).append (by decide)).append h.table
  refine ⟨_, by rw [select, columnText_of_names h.columns]; rfl, ?_, ?_, ?_⟩
  · apply Fragment.contained_spaced
    simp only [List.mem_cons, List.not_mem_nil, or_false]
    rintro f (rfl | rfl | rfl | rfl | rfl)
    · exact Fragment.contained_nil.sql head
    · exact Fragment.contained_ofText h.bare_joinText
    · exact Where.contained_clause _ h.wheres
    · exact Fragment.contained_ofText h.bare_orders
    · exact Fragment.contained_ofText h.bare_page
  · simp [Fragment.bindings_spaced, Fragment.bindings, Fragment.bindings_ofText,
      Where.bindings_clause, whereBindings]
  · intro style
    rw [Fragment.inlined_spaced]
    · simp [writtenSelect, Fragment.inlined, Fragment.inlined_ofText, Where.inlined_clause]
    · simp only [List.mem_cons, List.not_mem_nil, or_false]
      rintro f (rfl | rfl | rfl | rfl | rfl)
      · simp [Fragment.inlined]
      · exact Fragment.isEmpty_ofText style _
      · exact Where.isEmpty_clause style _
      · exact Fragment.isEmpty_ofText style _
      · exact Fragment.isEmpty_ofText style _

theorem SelfContained.insert_fills (h : q.SelfContained) :
    ∃ f, q.insert = .ok f ∧ f.Fills (q.assignments.map Prod.snd) q.writtenInsert := by
  have names : Bare (", ".intercalate (q.assignments.map fun e => e.1.plain)) := by
    apply bare_intercalate _ (by decide)
    intro s hs
    obtain ⟨entry, he, rfl⟩ := List.mem_map.mp hs
    exact h.bare_key he
  refine ⟨_, by rw [insert, keyTexts_of_names h.keys]; rfl, ?_, ?_, ?_⟩
  · have head := ((((by decide : Bare "INSERT INTO ").append h.table).append (t := " (")
      (by decide)).append names).append (t := ") VALUES (") (by decide)
    exact ((Fragment.contained_holes _).append (Fragment.contained_nil.sql (by decide))).sql head
  · simp [Fragment.bindings, Fragment.bindings_append, Fragment.bindings_holes]
  · intro style
    delta writtenInsert
    simp [Fragment.inlined, Fragment.inlined_append, Fragment.inlined_holes,
      String.append_assoc, Function.comp_def]

theorem SelfContained.update_fills (h : q.SelfContained) :
    q.update.Fills (q.assignments.map Prod.snd ++ q.whereBindings) q.writtenUpdate := by
  have head : Bare ("UPDATE " ++ q.tableText ++ " SET ") :=
    ((by decide : Bare "UPDATE ").append h.table).append (by decide)
  constructor
  · apply Fragment.contained_spaced
    simp only [List.mem_cons, List.not_mem_nil, or_false]
    rintro f (rfl | rfl)
    · refine Fragment.Contained.sql ?_ head
      apply Fragment.contained_joined _ (by decide)
      intro f hf
      obtain ⟨entry, he, rfl⟩ := List.mem_map.mp hf
      exact (Fragment.contained_nil.hole entry.2).sql ((h.bare_key he).append (by decide))
    · exact Where.contained_clause _ h.wheres
  · have set : (q.assignments.map assignment).flatMap Fragment.bindings
        = q.assignments.map Prod.snd := by
      rw [List.flatMap_map, List.map_eq_flatMap]
      rfl
    simp [update, Fragment.bindings_spaced, Fragment.bindings, Fragment.bindings_joined,
      Where.bindings_clause, whereBindings, set]
  · intro style
    rw [update, Fragment.inlined_spaced]
    · have set : Fragment.inlined style ∘ assignment = writtenAssignment style := by
        funext entry
        simp [assignment, writtenAssignment, Fragment.inlined]
      simp [writtenUpdate, Fragment.inlined, Fragment.inlined_joined, Where.inlined_clause, set]
    · simp only [List.mem_cons, List.not_mem_nil, or_false]
      rintro f (rfl | rfl)
      · simp [Fragment.inlined]
      · exact Where.isEmpty_clause style _

theorem SelfContained.delete_fills (h : q.SelfContained) :
    q.delete.Fills q.whereBindings q.writtenDelete := by
  constructor
  · apply Fragment.contained_spaced
    simp only [List.mem_cons, List.not_mem_nil, or_false]
    rintro f (rfl | rfl)
    · exact Fragment.contained_nil.sql ((by decide : Bare "DELETE FROM ").append h.table)
    · exact Where.contained_clause _ h.wheres
  · simp [delete, Fragment.bindings_spaced, Fragment.bindings, Where.bindings_clause,
      whereBindings]
  · intro style
    rw [delete, Fragment.inlined_spaced]
    · simp [writtenDelete, Fragment.inlined, Where.inlined_clause]
    · simp only [List.mem_cons, List.not_mem_nil, or_false]
      rintro f (rfl | rfl)
      · simp [Fragment.inlined]
      · exact Where.isEmpty_clause style _

theorem SelfContained.compile_fills (h : q.SelfContained) :
    ∃ f, q.compile = .ok f ∧ f.Fills q.bindings fun style => q.written style := by
  unfold compile bindings written
  cases q.kind with
  | select => exact h.select_fills
  | insert => exact h.insert_fills
  | update => exact ⟨q.update, rfl, h.update_fills⟩
  | delete => exact ⟨q.delete, rfl, h.delete_fills⟩

/-- Text and values of a statement never drift apart: they are as many, and filling the text with
the values gives the directly written statement, in every style of literals. -/
theorem prepared_in_step (q : Query) (h : q.SelfContained) :
    ∃ sql, q.prepared = .ok (sql, q.bindings) ∧
      Scan.placeholderCount sql = q.bindings.length ∧
      ∀ style : LiteralStyle, style.inline sql q.bindings = q.written style := by
  obtain ⟨f, hf, fills⟩ := h.compile_fills
  exact ⟨f.sql, by rw [prepared, hf]; rfl, fills.placeholderCount, fills.inline⟩

/-- Values that look like SQL, in a group in a group; one of the columns is quoted. -/
def groupedUpdate : Query where
  table := .text "notes"
  kind := .update
  wheres := [
    .leaf .and (.oneOf "`why?`" [.int 1, .text "?"]),
    .group .or [
      .leaf .and (.between "at" (.text "a'?") (.text "\\")),
      .group .and [.leaf .and (.like "title" (.text "%?%")), .leaf .or (.isNull "body")]]]
  assignments := [(.text "title", .text "'; ?"), (.text "body", .null)]

theorem groupedUpdate_in_step :
    groupedUpdate.SelfContained ∧ ∃ sql, groupedUpdate.prepared = .ok (sql, groupedUpdate.bindings)
      ∧ Scan.placeholderCount sql = groupedUpdate.bindings.length
      ∧ ∀ style : LiteralStyle,
        style.inline sql groupedUpdate.bindings = groupedUpdate.written style :=
  have contained : groupedUpdate.SelfContained :=
    ⟨⟨["*"], rfl⟩, ⟨["title", "body"], rfl⟩, by decide⟩
  ⟨contained, prepared_in_step groupedUpdate contained⟩

example : groupedUpdate.written .mysql =
    "UPDATE notes SET title = '''; ?', body = NULL WHERE `why?` IN (1, '?') OR " ++
      "(at BETWEEN 'a''?' AND '\\\\' AND (title LIKE '%?%' OR body IS NULL))" := by
  decide +kernel

end Query

end FluentSql
