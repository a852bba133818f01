import FluentSql.Proofs.SelectReading

/-!
# The parts of a statement

Every kind of statement is written in three parts: what stands before its
columns, the columns, and what stands behind them.
-/

set_option autoImplicit false

namespace FluentSql.Query

def listing (q : Query) : Except Fault String :=
  match q.kind with
  | .select => q.columnText
  | .insert =>
    (Value.texts (q.assignments.map Prod.fst)).map fun names => ", ".intercalate names
  | .update => .ok (Fragment.joined ", " (q.assignments.map assignment)).sql
  | .delete => .ok ""

def opening (q : Query) : String :=
  match q.kind with
  | .select => "SELECT "
  | .insert => "INSERT INTO " ++ q.tableText ++ " ("
  | .update => "UPDATE " ++ q.tableText ++ " SET "
  | .delete => "DELETE FROM " ++ q.tableText

def closing (q : Query) : String :=
  match q.kind with
  | .select => " FROM " ++ q.tableText ++ String.ofList q.joinTail
  | .insert => ") VALUES (" ++ (Fragment.holes (q.assignments.map Prod.snd)).sql ++ ")"
  | .update | .delete => String.ofList (Reading.spacedAfter (Where.clause q.wheres).sql)

theorem sql_clauses (q : Query) (columns : String) :
    (Fragment.spaced (q.clauses columns)).sql =
      "SELECT " ++ columns ++ (" FROM " ++ q.tableText ++ String.ofList q.joinTail) := by
  apply String.toList_injective
  rw [clauses_chars]
  simp only [String.toList_append, String.toList_ofList, List.append_assoc, tableText]

theorem sql_before_wheres (q : Query) {f : Fragment} (present : f.isEmpty = false)
    (filled : f.sql ≠ "") :
    (Fragment.spaced [f, Where.clause q.wheres]).sql =
      f.sql ++ String.ofList (Reading.spacedAfter (Where.clause q.wheres).sql) := by
  have same : ∀ g ∈ [f, Where.clause q.wheres], g.isEmpty = g.sql.isEmpty := by
    intro g member
    simp only [List.mem_cons, List.not_mem_nil, or_false] at member
    rcases member with rfl | rfl
    · rw [present, eq_comm]
      simpa using filled
    · cases q.wheres <;> simp [Where.clause, Fragment.sql]
  apply String.toList_injective
  rw [Fragment.sql_spaced _ same, List.map_cons, Reading.toList_spacedTexts _ filled]
  simp

/-- The text of every kind of statement: columns, with what stands before and behind them. -/
theorem prepared_eq_parts (q : Query) :
    q.prepared = q.listing.map fun listing =>
      (q.opening ++ listing ++ q.closing, q.bindings) := by
  rw [prepared, compile]
  unfold listing opening closing
  cases q.kind with
  | select =>
    change (q.columnText.map fun columns => Fragment.spaced (q.clauses columns)).map _ = _
    cases q.columnText with
    | error fault => rfl
    | ok columns => simp only [Except.map, sql_clauses]
  | insert =>
    rw [statement, insert]
    cases Value.texts (q.assignments.map Prod.fst) with
    | error fault => rfl
    | ok names => simp [Except.map, Fragment.sql, Fragment.sql_append, String.append_assoc]
  | update =>
    rw [statement, update]
    simp only [Except.map]
    rw [sql_before_wheres q rfl (by simp [Fragment.sql])]
    simp [Fragment.sql]
  | delete =>
    rw [statement, delete]
    simp only [Except.map]
    rw [sql_before_wheres q rfl (by simp [Fragment.sql])]
    simp [Fragment.sql]

end FluentSql.Query
