import FluentSql.Connection.Binds
import FluentSql.Inline
import FluentSql.Journal
import FluentSql.Scan.Statement

/-!
# Running statements

A connection runs each statement in a transaction of its own: it is committed
if the engine answers and rolled back if the engine fails. A session is a
connection, if there is one, together with the journal.
-/

set_option autoImplicit false

namespace FluentSql

abbrev Row := Value.Assignments

structure Reply where
  rows : List Row := []
  affected : Value := .int 0
  lastId : Value := .null

inductive Outcome where
  | answered (reply : Reply)
  | rejected (reason : String)
  | broken (reason : String)

structure Executed where
  statement : String
  parameters : Value.Assignments
  committed : Bool

structure Connection where
  url : String
  bound : Bool
  dialect : Dialect
  /-- What the engine will do, statement by statement; afterwards it answers with nothing. -/
  outcomes : List Outcome := []
  executed : List Executed := []

namespace Connection

def shown (c : Connection) : String :=
  "Connection(" ++ (if c.bound then c.url else "unbound") ++ ")"

def next (c : Connection) : Outcome :=
  match c.outcomes with
  | [] => .answered {}
  | outcome :: _ => outcome

def committed : Outcome → Bool
  | .answered _ => true
  | _ => false

def after (c : Connection) (p : Prepared) : Connection :=
  { c with
    bound := true
    outcomes := c.outcomes.drop 1
    executed := c.executed ++ [⟨p.statement, p.parameters, committed c.next⟩] }

end Connection

/-- Carries a result and the state after it into the next step; a fault ends the run. -/
def andThen {α β σ : Type} (r : Except Fault α × σ) (next : α → σ → Except Fault β × σ) :
    Except Fault β × σ :=
  match r with
  | (.ok x, s) => next x s
  | (.error f, s) => (.error f, s)

structure Session where
  connection : Option Connection
  logsQueries : Bool := false
  journal : List Journal.Entry := []

namespace Session

def record (s : Session) (source : Journal.Source) (level : Journal.Level) (message : String) :
    Session :=
  { s with journal := s.journal ++ [⟨source, level, message⟩] }

def bind (s : Session) : Session :=
  { s with connection := s.connection.map fun c => { c with bound := true } }

/-- The journal's word for a statement and how long it took, which differs from run to run. -/
def timed (s : Session) (sql : String) : Session :=
  s.record .connection .debug ("Executed in # ms: " ++ sql)

def announced (s : Session) (c : Connection) (sql : String) (values : List Value) : Session :=
  if s.logsQueries then
    s.record .connection .info (c.dialect.literals.inline sql values)
  else s

def run (s : Session) (sql : String) (values : List Value) : Except Fault Reply × Session :=
  match s.connection with
  | none => (.error (.query .noConnection), s)
  | some c =>
    match Connection.prepare sql values with
    | .error f => (.error f, s)
    | .ok p =>
      let s := { s.announced c sql values with connection := some (c.after p) }
      match c.next with
      | .answered reply => (.ok reply, s.timed sql)
      | .rejected reason =>
        let s := s.record .connection .error ("Query failed: " ++ sql ++ " (" ++ reason ++ ")")
        (.error (.execution (.rejected reason)), s.timed sql)
      | .broken reason => (.error (.engine reason), s.timed sql)

def runAll (s : Session) : List String → Except Fault Unit × Session
  | [] => (.ok (), s)
  | sql :: rest => andThen (s.run sql []) fun _ s => s.runAll rest

def runScript (s : Session) (script : String) : Except Fault Nat × Session :=
  let statements := Scan.statements script
  andThen (s.runAll statements) fun _ s =>
    (.ok statements.length,
      s.record .connection .debug
        ("Executed " ++ toString statements.length ++ " DDL statement(s)"))

end Session

end FluentSql
