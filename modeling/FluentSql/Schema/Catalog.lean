import FluentSql.Connection.Session
import FluentSql.Schema.Reflection
import FluentSql.Schema.Table

/-!
# The catalog

What a connected database says of its tables. Every question binds the
connection; a table without columns counts as missing. Loading a table reads
all its columns back, unchanged.
-/

set_option autoImplicit false

namespace FluentSql

/-- A type as the database has it: it can be written in SQL, or it cannot. -/
inductive CatalogType where
  | written (type : Value)
  | unwritable (shown reason : String)

structure CatalogColumn where
  name : Option Value
  type : Option CatalogType
  nullable : Option Value
  default : Option Value
  increments : Option Value

structure Catalog where
  tables : List (Value × List CatalogColumn)
  failure : Option String := none

namespace CatalogColumn

def typeText : CatalogType → Except Fault Value
  | .written type => .ok type
  | .unwritable shown reason => .error (.schema (.reflectedType shown reason))

/-- Nothing is said of extras; what is left out is nullable and has neither a default nor a word on
increments. -/
def description (c : CatalogColumn) : Except Fault Description := do
  let name ← Description.required "name" c.name
  let type ← match c.type with
    | some type => typeText type
    | none => .error (.missingKey "type")
  .ok {
    name := some name
    type := some type
    nullable := some (c.nullable.getD (.bool true))
    default := some (c.default.getD .null)
    increments := some (c.increments.getD .null) }

end CatalogColumn

namespace Catalog

def refuse {α : Type} (s : Session) (fault : ExecutionFault) : Except Fault α × Session :=
  (.error (.execution fault), s.record .catalog .error fault.message)

def tableNames (c : Catalog) (s : Session) : Except Fault (List Value) × Session :=
  match c.failure with
  | some reason => refuse s.bind (.listing reason)
  | none => (.ok (c.tables.map Prod.fst), s.bind)

def columns? (c : Catalog) (name : Value) : Except Fault (Option (List CatalogColumn)) :=
  if name.isKey then .ok (Keyed.find? name c.tables) else .error .wrongType

def hasTable (c : Catalog) (s : Session) (name : Value) : Except Fault Bool × Session :=
  match c.failure with
  | some reason => refuse s.bind (.checking name.plain reason)
  | none => ((c.columns? name).map Option.isSome, s.bind)

def describe (c : Catalog) (s : Session) (name : Value) :
    Except Fault (List Description) × Session :=
  match c.failure with
  | some reason => refuse s.bind (.describing name.plain reason)
  | none =>
    match c.columns? name with
    | .error f => (.error f, s.bind)
    | .ok none | .ok (some []) => (.error (.schema (.missingTable name.plain)), s.bind)
    | .ok (some columns) => (columns.mapM CatalogColumn.description, s.bind)

def load (c : Catalog) (s : Session) (name : Value) : Except Fault Table × Session :=
  andThen (c.describe s name) fun descriptions s =>
    match descriptions.mapM Description.column with
    | .error f => (.error f, s)
    | .ok columns =>
      (Table.ofColumns name columns,
        s.record .catalog .debug
          ("Reflected " ++ toString columns.length ++ " columns for " ++ name.plain))

end Catalog

end FluentSql
