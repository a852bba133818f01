import FluentSql.Keyed
import FluentSql.Schema.Column
import FluentSql.Schema.Index

/-!
# Tables

A table holds its columns and its indexes under their names, in the order in
which the names first came; what is added under a name already there takes
the old one's place. A refused operation leaves the table as it was, except
that an id whose index is refused stays as a column.
-/

set_option autoImplicit false

namespace FluentSql

structure Table where
  name : Value
  columns : List (Value × Column) := []
  indexes : List (Value × Index) := []

namespace Table

def putColumn (t : Table) (c : Column) : Table :=
  { t with columns := Keyed.put c.name c t.columns }

def putIndex (t : Table) (i : Index) : Table :=
  { t with indexes := Keyed.put i.name i t.indexes }

def columnList (t : Table) : List Column :=
  t.columns.map Prod.snd

def indexList (t : Table) : List Index :=
  t.indexes.map Prod.snd

def columnNames (t : Table) : List Value :=
  t.columns.map Prod.fst

def indexNames (t : Table) : List Value :=
  t.indexList.map Index.name

def columnsIn (t : Table) (state : Column.State) : List Column :=
  t.columnList.filter fun c => decide (c.state = state)

def shown (t : Table) : String :=
  "TableDefinition(table_name=" ++ t.name.shown ++ ", columns=" ++ (Value.list t.columnNames).shown
    ++ ")"

theorem columnNames_putColumn (t : Table) (c : Column) :
    (t.putColumn c).columnNames =
      if t.columnNames.any (fun name => name == c.name) then t.columnNames
      else t.columnNames ++ [c.name] := by
  simp only [columnNames, putColumn, Keyed.keys_put, List.any_map, Function.comp_def]

/-! ## Operations -/

def column (t : Table) (name : Value) : Except Fault Column :=
  if name.isKey then
    match Keyed.find? name t.columns with
    | some c => .ok c
    | none => .error (.schema (.unknownColumn name.plain t.name.plain))
  else .error .wrongType

def addColumn (t : Table) (c : Column) : Except Fault Table :=
  if c.name.isKey then .ok (t.putColumn c) else .error .wrongType

def ofColumns (name : Value) (columns : List Column) : Except Fault Table :=
  columns.foldlM addColumn { name := name }

def add (t : Table) (draft : Column.Draft) : Except Fault (Column × Table) := do
  let c ← draft.column
  let t ← t.addColumn c
  .ok (c, t)

def addIndex (t : Table) (kind : Index.Kind) (columns name : Value) :
    Except Fault (Index × Table) :=
  (Index.build t.name kind columns name).map fun i => (i, t.putIndex i)

def numericIdTypes : List String :=
  ["INT", "BIGINT", "SMALLINT", "MEDIUMINT", "TINYINT"]

/-- The column that a primary key of a type has; numbers count up by themselves. -/
def idDraft (name type : Value) : Except Fault Column.Draft :=
  let never : Option Value := some (.bool false)
  let refusal : Except Fault Column.Draft := .error (.schema (.idType type))
  match type with
  | .text word =>
    if numericIdTypes.contains word then
      .ok {
        name := name, type := some type, nullable := never
        family := .integer none none (some (.bool true)) }
    else if word = "UUID" then
      .ok {
        name := name, type := some (.text "CHAR"), nullable := never
        family := .string (some (.int 36)) }
    else if word = "VARCHAR" || word = "CHAR" then
      .ok { name := name, type := some type, nullable := never, family := .string none }
    else refusal
  | _ => refusal

def addId (t : Table) (name type : Value) : Except Fault Column × Table :=
  match (type.upper.bind (idDraft name)).bind t.add with
  | .error f => (.error f, t)
  | .ok (c, t) =>
    match t.addIndex .primary name .null with
    | .error f => (.error f, t)
    | .ok (_, t) => (.ok c, t)

def dateTime (name : String) (nullable default isExpression onUpdate : Value) : Column :=
  { name := .text name, type := .text "DATETIME", nullable := nullable, default := default
    isExpression := isExpression, family := .dateTime onUpdate (.int 0) }

def createdAt : Column :=
  dateTime "created_at" (.bool false) Column.currentTimestamp (.bool true) (.bool false)

def updatedAt : Column :=
  dateTime "updated_at" (.bool false) .null (.bool false) (.bool true)

def deletedAt : Column :=
  dateTime "deleted_at" (.bool true) .null (.bool false) (.bool false)

def change (t : Table) (name : Value) : Except Fault (Column × Table) :=
  (t.column name).map fun c => (c.changed, t.putColumn c.changed)

def drop (t : Table) (name : Value) : Except Fault Table :=
  (t.column name).map fun c => t.putColumn c.deleted

end Table

end FluentSql
