import FluentSql.Schema.Table

/-!
# Calls on a table

Calls as data. Each gives an answer or a fault, and the table after it. The
calls that follow are made on the answer: those on a column change it in its
table, and a fault among them keeps what was done before it.
-/

set_option autoImplicit false

namespace FluentSql.Table

inductive Call where
  | id (column type : Option Value)
  | add (draft : Column.Draft)
  | timestamps
  | softDeletes
  | index (kind : Index.Kind) (columns name : Value)
  | change (column : Value)
  | drop (column : Value)
  | addColumn (column : Column)
  | addIndex (index : Index)
  | columnNames
  | indexNames
  | shown
  | refused (fault : Fault)

namespace Call

def integer (column : Value) (type : Option Value) : Call :=
  add { name := column, type := type, family := .integer none none none }

def wideInteger (column : Value) (type : Option Value) : Call :=
  add {
    name := column, type := some (type.getD (.text "BIGINT"))
    family := .integer (some (.int 20)) none none }

def narrowInteger (column : Value) (type : Option Value) : Call :=
  add {
    name := column, type := some (type.getD (.text "SMALLINT"))
    family := .integer (some (.int 6)) none none }

def string (column : Value) (length type : Option Value) : Call :=
  add { name := column, type := type, family := .string length }

def char (column : Value) (length : Option Value) : Call :=
  string column length (some (.text "CHAR"))

def text (column : Value) (type : Option Value) : Call :=
  add { name := column, type := type, family := .text }

def mediumText (column : Value) : Call := text column (some (.text "MEDIUMTEXT"))

def longText (column : Value) : Call := text column (some (.text "LONGTEXT"))

def json (column : Value) : Call := text column (some (.text "JSON"))

def dateTime (column : Value) (type : Option Value) : Call :=
  add { name := column, type := type, family := .dateTime none none }

def timestamp (column : Value) : Call := dateTime column (some (.text "TIMESTAMP"))

def time (column : Value) : Call := dateTime column (some (.text "TIME"))

def date (column : Value) : Call := dateTime column (some (.text "DATE"))

def enumeration (column values : Value) : Call :=
  add { name := column, family := .enumeration values }

end Call

inductive Answer where
  | value (v : Value)
  | column (c : Column)
  | index (i : Index)
  | table (t : Table)

namespace Answer

def nothing : Answer := value .null

def shown : Answer → Except Fault String
  | value v => .ok v.shown
  | column c => .ok c.shown
  | index i => i.shown
  | table t => .ok t.shown

end Answer

def answered {α : Type} (t : Table) (r : Except Fault (α × Table)) (answer : α → Answer) :
    Except Fault Answer × Table :=
  match r with
  | .ok (x, t) => (.ok (answer x), t)
  | .error f => (.error f, t)

def perform (t : Table) : Call → Except Fault Answer × Table
  | .id column type =>
    let (r, t) := t.addId (column.getD (.text "id")) (type.getD (.text "INT"))
    (r.map .column, t)
  | .add draft => t.answered (t.add draft) .column
  | .timestamps => (.ok .nothing, (t.putColumn createdAt).putColumn updatedAt)
  | .softDeletes => (.ok .nothing, t.putColumn deletedAt)
  | .index kind columns name => t.answered (t.addIndex kind columns name) .index
  | .change column => t.answered (t.change column) .column
  | .drop column => t.answered ((t.drop column).map fun t => ((), t)) fun _ => .nothing
  | .addColumn c => t.answered ((t.addColumn c).map fun t => (c, t)) .column
  | .addIndex i => (.ok (.index i), t.putIndex i)
  | .columnNames => (.ok (.value (.list t.columnNames)), t)
  | .indexNames => (.ok (.value (.list t.indexNames)), t)
  | .shown => (.ok (.value (.text t.shown)), t)
  | .refused fault => (.error fault, t)

/-- A call that follows another, as a table and as a column read it. -/
structure Link where
  onTable : Call
  onColumn : Column.Call

namespace Answer

def perform (a : Answer) (link : Link) : Except Fault Answer :=
  match a, link.onColumn with
  | table t, _ => (t.perform link.onTable).1
  | a, .shown => a.shown.map fun s => value (.text s)
  | column c, call => (c.perform call).map column
  | _, _ => .error .noOperation

end Answer

/-- A column that a call gave is the one in the table. It is put where the call put it, among the
columns from before the call: its name need not equal itself. -/
def keep (before t : Table) : Answer → Table
  | .column c => { t with columns := (before.putColumn c).columns }
  | _ => t

def performOn (before t : Table) (answer : Answer) : List Link → Except Fault Answer × Table
  | [] => (.ok answer, t)
  | link :: rest =>
    match answer.perform link with
    | .ok answer => before.performOn (before.keep t answer) answer rest
    | .error f => (.error f, t)

def performChain (t : Table) (call : Call) (rest : List Link) : Except Fault Answer × Table :=
  match t.perform call with
  | (.ok answer, after) => t.performOn after answer rest
  | (.error f, after) => (.error f, after)

structure Step where
  call : Call
  rest : List Link := []

def performAll (t : Table) : List Step → Except Fault Unit × Table
  | [] => (.ok (), t)
  | step :: rest =>
    match t.performChain step.call step.rest with
    | (.ok _, t) => t.performAll rest
    | (.error f, t) => (.error f, t)

end FluentSql.Table
