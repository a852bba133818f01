import FluentSql.Journal
import FluentSql.Query.Clause
import FluentSql.Query.Where
import FluentSql.Value.Reading

/-!
# Queries and their statements

A query holds the clauses of all four kinds of statement; its kind decides
which of them its statement has. Compiling gives one fragment, so the text
and the values in it come from one walk; `Query.bindings` lists the values in
the order of the clauses.
-/

set_option autoImplicit false

namespace FluentSql

structure Query where
  table : Value
  kind : StatementKind := .select
  columns : List Value := [.text "*"]
  wheres : List Where := []
  joins : List Join := []
  orders : List Order := []
  page : Page := {}
  /-- What is written under each column; a column of an update may be any value with a text. -/
  assignments : List (Value × Value) := []

namespace Query

/-- No columns at all mean every column. -/
def columnText (q : Query) : Except Fault String :=
  match q.columns with
  | [] => .ok "*"
  | columns => (Value.texts columns).map fun names => ", ".intercalate names

def tableText (q : Query) : String :=
  q.table.plain

def joinText (q : Query) : String :=
  " ".intercalate (q.joins.map Join.sql)

def select (q : Query) : Except Fault Fragment :=
  q.columnText.map fun columns =>
    Fragment.spaced [
      [.sql ("SELECT " ++ columns ++ " FROM " ++ q.tableText)],
      Fragment.ofText q.joinText,
      Where.clause q.wheres,
      Fragment.ofText (Order.clause q.orders),
      Fragment.ofText q.page.clause]

/-- The columns of a new row have to be text. -/
def insert (q : Query) : Except Fault Fragment :=
  (Value.texts (q.assignments.map Prod.fst)).map fun names =>
    .sql ("INSERT INTO " ++ q.tableText ++ " (" ++ ", ".intercalate names ++ ") VALUES (")
      :: Fragment.holes (q.assignments.map Prod.snd) ++ [.sql ")"]

def assignment (entry : Value × Value) : Fragment :=
  [.sql (entry.1.plain ++ " = "), .hole entry.2]

def update (q : Query) : Fragment :=
  Fragment.spaced [
    .sql ("UPDATE " ++ q.tableText ++ " SET ")
      :: Fragment.joined ", " (q.assignments.map assignment),
    Where.clause q.wheres]

def delete (q : Query) : Fragment :=
  Fragment.spaced [[.sql ("DELETE FROM " ++ q.tableText)], Where.clause q.wheres]

def statement (q : Query) : StatementKind → Except Fault Fragment
  | .select => q.select
  | .insert => q.insert
  | .update => .ok q.update
  | .delete => .ok q.delete

def compile (q : Query) : Except Fault Fragment :=
  q.statement q.kind

def whereBindings (q : Query) : List Value :=
  Where.valuesAll q.wheres

def bindingsAs (q : Query) : StatementKind → List Value
  | .insert => q.assignments.map Prod.snd
  | .update => q.assignments.map Prod.snd ++ q.whereBindings
  | .select | .delete => q.whereBindings

def bindings (q : Query) : List Value :=
  q.bindingsAs q.kind

def prepared (q : Query) : Except Fault (String × List Value) :=
  q.compile.map fun f => (f.sql, q.bindings)

def entry (q : Query) : Journal.Entry :=
  match q.kind with
  | .select => ⟨.selecting, .debug, "Compiled SELECT for " ++ q.tableText⟩
  | .insert =>
    ⟨.writing, .debug,
      "Compiled INSERT for " ++ q.tableText ++ " (" ++ toString q.assignments.length ++ " values)"⟩
  | .update => ⟨.writing, .debug, "Compiled UPDATE for " ++ q.tableText⟩
  | .delete => ⟨.writing, .debug, "Compiled DELETE for " ++ q.tableText⟩

def shown (q : Query) : String :=
  "QueryDefinition(type=" ++ Keyword.word q.kind ++ ", table=" ++ q.table.shown
    ++ ", wheres=" ++ toString q.wheres.length ++ ", joins=" ++ toString q.joins.length ++ ")"

/-- A query whose kind is no statement kind compiles to nothing; a kind that holds others cannot
even be looked up. -/
def unknownKind : Value → Fault
  | .list _ | .map _ => .wrongType
  | kind => .grammar (.statement kind)

end Query

end FluentSql
