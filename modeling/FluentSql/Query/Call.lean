import FluentSql.Query.Builder

/-!
# Calls on a query builder

Calls as data, so that a group of clauses can be described by a list of calls
and a run of calls is one value. Performing a call gives an answer or a fault,
and the workspace after it. A group is described on a builder of its own; only
its where clauses are taken over, and only if none of its calls fails.
-/

set_option autoImplicit false

namespace FluentSql

namespace Query

inductive Call where
  | table (name : Value)
  | select (columns : List Value)
  | compare (column : String) (operator value connective : Option Value)
  | filter (filter : Filter) (connective : Option Value)
  | group (members : List Call) (connective : Option Value)
  | join (kind : Option Value) (table left : String) (operator right : Option String)
  | joinWith (kind : Option Value) (table : String) (conditions : List Join.Call)
  | orderBy (column : String) (direction : Option Value)
  | limit (bound : Value)
  | offset (bound : Value)
  | sql
  | bindings
  | inlined
  | get
  | first
  | count (column : Option String)
  | insert (values : Value)
  | insertGetId (values : Value)
  | update (values : Value)
  | delete
  | fresh
  | shown
  | chained (head : Call) (rest : List Call)
  | refused (fault : Fault)

namespace Call

instance : Inhabited Call := ⟨shown⟩

def createdAt : String := "created_at"

def latest (column : Option String) : Call :=
  orderBy (column.getD createdAt) (some (.text (Keyword.word Direction.descending)))

def oldest (column : Option String) : Call :=
  orderBy (column.getD createdAt) (some (.text (Keyword.word Direction.ascending)))

def alternative : Option Value :=
  some (.text (Keyword.word Connective.or))

def leftJoin : Option Value :=
  some (.text (Keyword.word JoinKind.left))

def rightJoin : Option Value :=
  some (.text (Keyword.word JoinKind.right))

end Call

end Query

inductive Answer where
  | receiver
  | builder (b : Builder)
  | value (v : Value)

namespace Answer

def ofRow (row : Row) : Value := .map row

def ofRows (rows : List Row) : Answer :=
  value (.list (rows.map ofRow))

def performOn (v : Value) : Query.Call → Except Fault Answer
  | .shown => .ok (value (.text v.shown))
  | _ => .error .noOperation

end Answer

namespace Workspace

def changed (w : Workspace) (r : Except Fault Builder) : Except Fault Answer × Workspace :=
  match r with
  | .ok b => (.ok .receiver, { w with builder := b })
  | .error f => (.error f, w)

def answered {α : Type} (r : Except Fault α × Workspace) (answer : α → Answer) :
    Except Fault Answer × Workspace :=
  (r.1.map answer, r.2)

/-- The workspace on which a group is described: the same session and table, nothing else. -/
def forGroup (w : Workspace) (q : Query) : Workspace :=
  { w with builder := w.builder.fresh.table q.table }

mutual

def perform (w : Workspace) : Query.Call → Except Fault Answer × Workspace
  | .table name => w.changed (.ok (w.builder.table name))
  | .select columns => w.changed (w.builder.select columns)
  | .compare column operator value connective =>
    w.changed (w.builder.compare column operator value connective)
  | .filter filter connective => w.changed (w.builder.filter filter connective)
  | .group members connective =>
    w.withCurrent fun q =>
      let (r, inner) := (w.forGroup q).performAll members
      let w := { w with session := inner.session }
      match r with
      | .error f => (.error f, w)
      | .ok () =>
        w.changed (w.builder.addGroup q ((inner.builder.query.map Query.wheres).getD []) connective)
  | .join kind table left operator right =>
    w.changed (w.builder.join kind table left operator right)
  | .joinWith kind table conditions => w.changed (w.builder.joinWith kind table conditions)
  | .orderBy column direction => w.changed (w.builder.orderBy column direction)
  | .limit bound => w.changed (w.builder.limit bound)
  | .offset bound => w.changed (w.builder.offset bound)
  | .sql => answered w.compile fun prepared => .value (.text prepared.1)
  | .bindings => (w.builder.current.map fun q => .value (.list q.bindings), w)
  | .inlined => answered w.inlined fun sql => .value (.text sql)
  | .get => answered w.get Answer.ofRows
  | .first => answered w.first fun row => .value ((row.map Answer.ofRow).getD .null)
  | .count column => answered (w.count (column.getD "*")) fun n => .value (.int n)
  | .insert values => answered (w.write .insert values) fun reply => .value reply.affected
  | .insertGetId values => answered (w.write .insert values) fun reply => .value reply.lastId
  | .update values => answered (w.write .update values) fun reply => .value reply.affected
  | .delete => answered w.delete fun reply => .value reply.affected
  | .fresh => (.ok (.builder w.builder.fresh), w)
  | .shown => (.ok (.value (.text w.builder.shown)), w)
  | .chained head rest =>
    andThen (w.perform head) fun answer w => w.performChain answer rest
  | .refused fault => (.error fault, w)

def performAll (w : Workspace) : List Query.Call → Except Fault Unit × Workspace
  | [] => (.ok (), w)
  | call :: rest => andThen (w.perform call) fun _ w => w.performAll rest

def performChain (w : Workspace) (target : Answer) :
    List Query.Call → Except Fault Answer × Workspace
  | [] => (.ok target, w)
  | call :: rest =>
    match target with
    | .receiver => andThen (w.perform call) fun answer w => w.performChain answer rest
    | .value v =>
      match Answer.performOn v call with
      | .error f => (.error f, w)
      | .ok answer => w.performChain answer rest
    | .builder b =>
      let (r, other) := perform { w with builder := b } call
      let w := { w with session := other.session }
      match r with
      | .error f => (.error f, w)
      | .ok .receiver => w.performChain (.builder other.builder) rest
      | .ok answer => w.performChain answer rest

end

end Workspace

end FluentSql
