import FluentSql.Schema.Definition
import FluentSql.Schema.Table

/-!
# Scripts for tables

The statements that create a table, or bring an existing one up to date, each
with its semicolon; a script has one statement to a line. An alteration adds
the new columns, redefines the modified ones, drops the deleted ones, and
creates every index, leaving out what has nothing to do. A script fails with
the first definition that cannot be written.
-/

set_option autoImplicit false

namespace FluentSql.Table

def alterStatement (t : Table) (clauses : List String) : String :=
  "ALTER TABLE " ++ t.name.plain ++ " " ++ ", ".intercalate clauses ++ ";"

/-- One statement for all columns in a state, or nothing if there are none. -/
def alterColumns (t : Table) (state : Column.State)
    (clauses : Column → Except Fault (List String)) : Except Fault String :=
  match t.columnsIn state with
  | [] => .ok ""
  | columns => (columns.mapM clauses).map fun written => t.alterStatement written.flatten

def addStatement (d : Dialect) (t : Table) : Except Fault String :=
  t.alterColumns .new fun c =>
    (d.columnDefinition c).map fun definition => ["ADD COLUMN " ++ definition]

def modifyStatement (d : Dialect) (t : Table) : Except Fault String :=
  t.alterColumns .modified d.modifyClauses

def dropStatement (t : Table) : Except Fault String :=
  t.alterColumns .deleted fun c => .ok ["DROP COLUMN " ++ c.name.plain]

def indexStatements (t : Table) : Except Fault (List String) :=
  t.indexList.mapM fun i => i.definition.map (· ++ ";")

def createStatement (d : Dialect) (t : Table) : Except Fault String :=
  (t.columnList.mapM d.columnDefinition).map fun definitions =>
    "CREATE TABLE " ++ t.name.plain ++ " (" ++ ", ".intercalate definitions ++ ");"

def script (statements : List String) : String :=
  "\n".intercalate statements

def indexScript (t : Table) : Except Fault String :=
  t.indexStatements.map script

def createScript (d : Dialect) (t : Table) : Except Fault String := do
  let create ← t.createStatement d
  let indexes ← t.indexStatements
  .ok (script (create :: indexes))

def alterStatements (d : Dialect) (t : Table) : Except Fault (List String) := do
  let add ← t.addStatement d
  let modify ← t.modifyStatement d
  let drop ← t.dropStatement
  .ok ([add, modify, drop].filter fun s => !s.isEmpty)

def alterScript (d : Dialect) (t : Table) : Except Fault String := do
  let changes ← t.alterStatements d
  let indexes ← t.indexStatements
  .ok (script (changes ++ indexes))

def dropScript (name : Value) (ifExists : Bool) : String :=
  "DROP TABLE " ++ (if ifExists then "IF EXISTS " else "") ++ name.plain ++ ";"

end FluentSql.Table
