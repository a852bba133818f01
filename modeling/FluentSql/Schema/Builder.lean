import FluentSql.Connection.Call
import FluentSql.Schema.Call
import FluentSql.Schema.Catalog
import FluentSql.Schema.Script

/-!
# The schema builder

Creates, alters and drops tables: the calls that describe a table are
performed, the script is compiled and run. A builder that pretends reports
the script instead of running it. Calls on a builder are data; the calls that
follow one of them are made on its answer.
-/

set_option autoImplicit false

namespace FluentSql

structure SchemaBuilder where
  dialect : Dialect
  pretends : Bool
  catalog : Catalog

namespace SchemaBuilder

def execute (b : SchemaBuilder) (s : Session) (script : Value) : Except Fault Unit × Session :=
  if b.pretends then
    (.ok (), s.record .schema .info ("Pretend mode, not executing:\n" ++ script.plain))
  else andThen (s.runGivenScript script) fun _ s => (.ok (), s)

def executeReporting (b : SchemaBuilder) (s : Session) (script message : String) :
    Except Fault String × Session :=
  andThen (b.execute s (.text script)) fun _ s => (.ok script, s.record .schema .info message)

def described (t : Table) (steps : List Table.Step) : Except Fault Table :=
  match t.performAll steps with
  | (.ok _, t) => .ok t
  | (.error f, _) => .error f

def create (b : SchemaBuilder) (s : Session) (name : Value) (steps : List Table.Step) :
    Except Fault String × Session :=
  let compiled := (described { name := name } steps).bind fun t =>
    (t.createScript b.dialect).map fun script => (t, script)
  match compiled with
  | .error f => (.error f, s)
  | .ok (t, script) =>
    let s := s.record .defining .debug
      ("Compiled CREATE TABLE for " ++ name.plain ++ " (" ++ toString t.columns.length
        ++ " columns)")
    b.executeReporting s script ("Created table " ++ name.plain)

/-- Brings a table of the database up to date; nothing is run when nothing changed. -/
def alter (b : SchemaBuilder) (s : Session) (name : Value) (steps : List Table.Step) :
    Except Fault String × Session :=
  andThen (b.catalog.load s name) fun t s =>
    match (described t steps).bind fun t => t.alterScript b.dialect with
    | .error f => (.error f, s)
    | .ok script =>
      if script.isEmpty then
        (.ok script, s.record .schema .debug ("No changes for table " ++ name.plain))
      else b.executeReporting s script ("Altered table " ++ name.plain)

def drop (b : SchemaBuilder) (s : Session) (name : Value) (ifExists : Bool) :
    Except Fault String × Session :=
  let script := Table.dropScript name ifExists
  andThen (b.execute s (.text script)) fun _ s => (.ok script, s)

/-! ## Calls -/

inductive Call where
  | create (table : Value) (steps : List Table.Step)
  | alter (table : Value) (steps : List Table.Step)
  | drop (table : Value) (ifExists : Bool)
  | columnListing (table : Value)
  | execute (script : Value)
  | hasTable (table : Value)
  | tableNames
  | describe (table : Value)
  | load (table : Value)
  | refused (fault : Fault)

def descriptionValue (d : Description) : Value :=
  .map [("name", d.name.getD .null), ("type", d.type.getD .null),
    ("nullable", d.nullable.getD .null), ("default", d.default.getD .null),
    ("autoincrement", d.increments.getD .null)]

def perform (b : SchemaBuilder) (s : Session) : Call → Except Fault Table.Answer × Session
  | .create table steps => scripted (b.create s table steps)
  | .alter table steps => scripted (b.alter s table steps)
  | .drop table ifExists => scripted (b.drop s table ifExists)
  | .columnListing table =>
    andThen (b.catalog.load s table) fun t s => (.ok (.value (.list t.columnNames)), s)
  | .execute script => andThen (b.execute s script) fun _ s => (.ok .nothing, s)
  | .hasTable table =>
    andThen (b.catalog.hasTable s table) fun found s => (.ok (.value (.bool found)), s)
  | .tableNames => andThen (b.catalog.tableNames s) fun names s => (.ok (.value (.list names)), s)
  | .describe table =>
    andThen (b.catalog.describe s table) fun descriptions s =>
      (.ok (.value (.list (descriptions.map descriptionValue))), s)
  | .load table => andThen (b.catalog.load s table) fun t s => (.ok (.table t), s)
  | .refused fault => (.error fault, s)
where
  scripted (r : Except Fault String × Session) : Except Fault Table.Answer × Session :=
    andThen r fun script s => (.ok (.value (.text script)), s)

def performChain (b : SchemaBuilder) (s : Session) (call : Call) (rest : List Table.Link) :
    Except Fault Table.Answer × Session :=
  andThen (b.perform s call) fun answer s => (rest.foldlM Table.Answer.perform answer, s)

end SchemaBuilder

end FluentSql
