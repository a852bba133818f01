import FluentSql.Connection.Session

/-!
# Calls on a connection

Calls as data, with their arguments as they are given. Only text is run as a
statement or a script; anything else is refused, by the first thing that it
fails at. The answer to a call may only be shown.
-/

set_option autoImplicit false

namespace FluentSql.Connection

/-! ## Statements as they are given -/

/-- The character that an element of a value is; a longer text is like any plain character. -/
def characterOf (element : Value) : Char :=
  match element with
  | .text s =>
    match s.toList with
    | [c] => c
    | _ => ' '
  | _ => ' '

def placeholdersIn (statement : Value) : Except Fault Nat :=
  statement.elements.map fun elements =>
    Scan.countMarks (Scan.marks (elements.map characterOf))

/-- A statement that is no text is refused for its number of values before it is for its type. -/
def statementText (statement : Value) (values : List Value) : Except Fault String :=
  match statement with
  | .text s => .ok s
  | given => do
    let count ← placeholdersIn given
    if count ≠ values.length then
      .error (.execution (.bindingCount count values.length given.plain))
    else .error .wrongType

/-- Bytes of spacing only are a script without statements; a list of statements is no script. -/
def scriptText : Value → Except Fault String
  | .text s => .ok s
  | .list _ => .error .noOperation
  | .bytes bs =>
    if bs.all fun b => Text.isSpacing (Value.asciiChar b) then .ok "" else .error .wrongType
  | _ => .error .wrongType

/-! ## Calls and answers -/

inductive Call where
  | prepare (statement values : Value)
  | fetchAll (statement values : Value)
  | execute (statement values : Value)
  | insert (statement values : Value)
  | define (script : Value)
  | shown
  | refused (fault : Fault)

inductive Answer where
  | value (v : Value)
  | prepared (p : Prepared)

namespace Answer

def shown : Answer → String
  | value v => v.shown
  | prepared p => "(" ++ Text.quoted p.statement ++ ", " ++ (Value.map p.parameters).shown ++ ")"

def perform (a : Answer) : Call → Except Fault Answer
  | .shown => .ok (value (.text a.shown))
  | _ => .error .noOperation

end Answer

def given (statement values : Value) : Except Fault (String × List Value) := do
  let values ← values.elements
  let sql ← statementText statement values
  .ok (sql, values)

end FluentSql.Connection

namespace FluentSql.Session

def runGiven (s : Session) (statement values : Value) (answer : Reply → Value) :
    Except Fault Connection.Answer × Session :=
  match Connection.given statement values with
  | .error f => (.error f, s)
  | .ok (sql, values) =>
    andThen (s.run sql values) fun reply s => (.ok (.value (answer reply)), s)

def runGivenScript (s : Session) (script : Value) : Except Fault Nat × Session :=
  match Connection.scriptText script with
  | .error f => (.error f, s)
  | .ok text => s.runScript text

def perform (s : Session) : Connection.Call → Except Fault Connection.Answer × Session
  | .prepare statement values =>
    let prepared := (Connection.given statement values).bind fun p => Connection.prepare p.1 p.2
    (prepared.map .prepared, s)
  | .fetchAll statement values =>
    s.runGiven statement values fun reply => .list (reply.rows.map Value.map)
  | .execute statement values => s.runGiven statement values Reply.affected
  | .insert statement values => s.runGiven statement values Reply.lastId
  | .define script =>
    andThen (s.runGivenScript script) fun count s => (.ok (.value (.int count)), s)
  | .shown =>
    (.ok (.value (.text ((s.connection.map Connection.shown).getD Value.null.shown))), s)
  | .refused fault => (.error fault, s)

def performChain (s : Session) (call : Connection.Call) (rest : List Connection.Call) :
    Except Fault Connection.Answer × Session :=
  andThen (s.perform call) fun answer s => (rest.foldlM Connection.Answer.perform answer, s)

end FluentSql.Session
