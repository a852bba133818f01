import FluentSql.Connection.Session
import FluentSql.Query.Filter
import FluentSql.Query.Statement

/-!
# The query builder

A builder holds the query being described, once a table is chosen. Clause
calls that take no description of their own are functions from builder to
builder, so a refused call leaves the builder as it was. Executing calls
also use and change the session.
-/

set_option autoImplicit false

namespace FluentSql

structure Builder where
  dialect : Dialect
  query : Option Query := none

namespace Builder

def current (b : Builder) : Except Fault Query :=
  match b.query with
  | some q => .ok q
  | none => .error (.query .noTable)

def withQuery (b : Builder) (q : Query) : Builder :=
  { b with query := some q }

def table (b : Builder) (name : Value) : Builder :=
  b.withQuery { table := name }

def fresh (b : Builder) : Builder :=
  { dialect := b.dialect }

def columnList : List Value → Except Fault (List Value)
  | [] => .ok [.text "*"]
  | [.text name] => .ok [.text name]
  | [v] => v.elements.map fun columns => if columns.isEmpty then [.text "*"] else columns
  | columns => .ok columns

def select (b : Builder) (given : List Value) : Except Fault Builder := do
  let columns ← columnList given
  let q ← b.current
  .ok (b.withQuery { q with columns := columns })

def addWhere (b : Builder) (q : Query) (w : Where) : Builder :=
  b.withQuery { q with wheres := q.wheres ++ [w] }

def filter (b : Builder) (f : Filter) (connective : Option Value) : Except Fault Builder := do
  let q ← b.current
  let f ← f.listed
  let w ← f.clause connective
  .ok (b.addWhere q w)

/-- A call that has no value at all is refused before anything else is looked at. -/
def compare (b : Builder) (column : String) (operator value connective : Option Value) :
    Except Fault Builder := do
  let f ← Filter.ofComparison column operator value
  b.filter f connective

/-- A group without clauses adds nothing, and its connective is not read. -/
def addGroup (b : Builder) (q : Query) (members : List Where) (connective : Option Value) :
    Except Fault Builder :=
  match members with
  | [] => .ok b
  | members =>
    (Connective.ofGiven connective).map fun connective => b.addWhere q (.group connective members)

def addJoin (b : Builder) (j : Join) : Except Fault Builder :=
  b.current.map fun q => b.withQuery { q with joins := q.joins ++ [j] }

/-- A join whose one condition is given in the call needs both an operator and a second operand. -/
def join (b : Builder) (kind : Option Value) (table left : String)
    (operator right : Option String) : Except Fault Builder := do
  let j ← Join.ofGiven kind table
  match operator, right with
  | some operator, some right =>
    let j ← j.perform (.on left operator right none)
    b.addJoin j
  | _, _ => .error (.query (.joinOperands table))

def joinWith (b : Builder) (kind : Option Value) (table : String) (calls : List Join.Call) :
    Except Fault Builder := do
  let j ← Join.ofGiven kind table
  let j ← j.performAll calls
  b.addJoin j

def orderBy (b : Builder) (column : String) (direction : Option Value) : Except Fault Builder := do
  let q ← b.current
  let order ← Order.ofGiven column direction
  .ok (b.withQuery { q with orders := q.orders ++ [order] })

def limit (b : Builder) (v : Value) : Except Fault Builder :=
  b.current.map fun q => b.withQuery { q with page := { q.page with limit := Page.bound v } }

def offset (b : Builder) (v : Value) : Except Fault Builder :=
  b.current.map fun q => b.withQuery { q with page := { q.page with offset := Page.bound v } }

def shown (b : Builder) : String :=
  "QueryBuilder(" ++ ((b.query.map Query.shown).getD "None") ++ ")"

end Builder

structure Workspace where
  builder : Builder
  session : Session

namespace Workspace

def setQuery (w : Workspace) (q : Query) : Workspace :=
  { w with builder := w.builder.withQuery q }

def withCurrent {α : Type} (w : Workspace) (next : Query → Except Fault α × Workspace) :
    Except Fault α × Workspace :=
  match w.builder.query with
  | some q => next q
  | none => (.error (.query .noTable), w)

def compile (w : Workspace) : Except Fault (String × List Value) × Workspace :=
  w.withCurrent fun q =>
    match q.prepared with
    | .error f => (.error f, w)
    | .ok prepared =>
      let entry := q.entry
      (.ok prepared,
        { w with session := w.session.record entry.source entry.level entry.message })

def execute (w : Workspace) : Except Fault Reply × Workspace :=
  andThen w.compile fun prepared w =>
    let (r, session) := w.session.run prepared.1 prepared.2
    (r, { w with session := session })

def inlined (w : Workspace) : Except Fault String × Workspace :=
  andThen w.compile fun prepared w =>
    (.ok (w.builder.dialect.literals.inline prepared.1 prepared.2), w)

def get (w : Workspace) : Except Fault (List Row) × Workspace :=
  w.withCurrent fun q =>
    andThen ((w.setQuery { q with kind := .select }).execute) fun reply w => (.ok reply.rows, w)

/-- The first row, by a limit of one that stays. -/
def first (w : Workspace) : Except Fault (Option Row) × Workspace :=
  w.withCurrent fun q =>
    let page := { q.page with limit := some (.int 1) }
    andThen ((w.setQuery { q with page := page }).get) fun rows w => (.ok rows.head?, w)

def restoreColumns (w : Workspace) (columns : List Value) : Workspace :=
  match w.builder.query with
  | some q => w.setQuery { q with columns := columns }
  | none => w

def aggregate : List Row → Except Fault Int
  | [] => .ok 0
  | row :: _ =>
    match row.lookup "aggregate" with
    | some v => v.toInteger
    | none => .error (.missingKey "aggregate")

/-- Counts by selecting one aggregate; the columns are put back whatever happens. -/
def count (w : Workspace) (column : String) : Except Fault Int × Workspace :=
  w.withCurrent fun q =>
    let columns := [Value.text ("COUNT(" ++ column ++ ") AS aggregate")]
    let (r, w) := (w.setQuery { q with columns := columns }).get
    let w := w.restoreColumns q.columns
    (r.bind aggregate, w)

def write (w : Workspace) (kind : StatementKind) (values : Value) :
    Except Fault Reply × Workspace :=
  w.withCurrent fun q =>
    let q := { q with kind := kind }
    match values.toAssignments with
    | .error f => (.error f, w.setQuery q)
    | .ok assignments => (w.setQuery { q with assignments := assignments }).execute

def delete (w : Workspace) : Except Fault Reply × Workspace :=
  w.withCurrent fun q => (w.setQuery { q with kind := .delete }).execute

end Workspace

end FluentSql
