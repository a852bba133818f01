import FluentSql.Value.Reading

/-!
# Columns

A column has a name, a type name, what its family adds to that, and a
lifecycle state: new columns are added, modified ones redefined, deleted ones
dropped, unchanged ones left alone. Names, flags and lengths are kept as given
and read when the column is written.
-/

set_option autoImplicit false

namespace FluentSql

namespace Column

inductive State where
  | unchanged
  | new
  | modified
  | deleted
  deriving DecidableEq, Repr

namespace State

def word : State → String
  | unchanged => "unchanged"
  | new => "new"
  | modified => "modified"
  | deleted => "deleted"

def read (given : Value) : Except Fault State :=
  match given with
  | .text "unchanged" => .ok unchanged
  | .text "new" => .ok new
  | .text "modified" => .ok modified
  | .text "deleted" => .ok deleted
  | _ => .error (.reading (.columnState given))

end State

inductive Family where
  | plain
  | integer (length isUnsigned increments : Value)
  | string (length : Value)
  | text
  | dateTime (onUpdate precision : Value)
  | enumeration (values : List Value)

def Family.name : Family → String
  | plain => "BaseColumn"
  | integer _ _ _ => "IntColumn"
  | string _ => "StringColumn"
  | text => "TextColumn"
  | dateTime _ _ => "DateTimeColumn"
  | enumeration _ => "EnumColumn"

end Column

structure Column where
  name : Value
  type : Value
  nullable : Value := .bool true
  default : Value := .null
  /-- Whether the default is SQL rather than a value. -/
  isExpression : Value := .bool false
  state : Column.State := .new
  family : Column.Family

namespace Column

def exists? (c : Column) : Bool :=
  c.state != .new

def shown (c : Column) : String :=
  c.family.name ++ "(name=" ++ c.name.shown ++ ", type=" ++ c.type.shown
    ++ ", state=" ++ c.state.word ++ ")"

/-! ## Drafts -/

inductive DraftFamily where
  | plain
  | integer (length isUnsigned increments : Option Value)
  | string (length : Option Value)
  | text
  | dateTime (onUpdate precision : Option Value)
  | enumeration (values : Value)

/-- A column as it is asked for: whatever is left out takes the family's usual value. -/
structure Draft where
  name : Value
  type : Option Value := none
  nullable : Option Value := none
  default : Option Value := none
  state : Option Value := none
  family : DraftFamily

namespace DraftFamily

def usualType : DraftFamily → Value
  | plain => .null
  | integer _ _ _ => .text "INT"
  | string _ => .text "VARCHAR"
  | text => .text "TEXT"
  | dateTime _ _ => .text "DATETIME"
  | enumeration _ => .text "ENUM"

def settled : DraftFamily → Except Fault Family
  | plain => .ok .plain
  | integer length isUnsigned increments =>
    .ok (.integer (length.getD (.int 11)) (isUnsigned.getD (.bool false))
      (increments.getD (.bool false)))
  | string length => .ok (.string (length.getD (.int 255)))
  | text => .ok .text
  | dateTime onUpdate precision =>
    .ok (.dateTime (onUpdate.getD (.bool false)) (precision.getD (.int 0)))
  | enumeration values => values.elements.map .enumeration

end DraftFamily

def Draft.column (d : Draft) : Except Fault Column := do
  let type ← (d.type.getD d.family.usualType).upper
  let state ← match d.state with
    | none => .ok State.new
    | some given => State.read given
  let family ← d.family.settled
  .ok {
    name := d.name
    type := type
    nullable := d.nullable.getD (.bool true)
    default := d.default.getD .null
    state := state
    family := family }

/-! ## Calls -/

inductive Call where
  | nullable (flag : Option Value)
  | default (value : Value) (isExpression : Option Value)
  | change
  | delete
  | setLength (length : Value)
  | unsigned (flag : Option Value)
  | autoIncrement (flag : Option Value)
  | current (expression : Option Value)
  | currentOnUpdate
  | shown
  | misfit (call : Call)
  | refused (fault : Fault)

def currentTimestamp : Value :=
  .text "CURRENT_TIMESTAMP"

def orTrue (flag : Option Value) : Value :=
  flag.getD (.bool true)

/-- A deleted column stays deleted. -/
def changed (c : Column) : Column :=
  if c.state = .deleted then c else { c with state := .modified }

def deleted (c : Column) : Column :=
  { c with state := .deleted }

def Family.perform : Family → Call → Except Fault Family
  | integer _ isUnsigned increments, .setLength v => .ok (integer v isUnsigned increments)
  | string _, .setLength v => .ok (string v)
  | integer length _ increments, .unsigned flag => .ok (integer length (orTrue flag) increments)
  | integer length isUnsigned _, .autoIncrement flag =>
    .ok (integer length isUnsigned (orTrue flag))
  | dateTime _ precision, .currentOnUpdate => .ok (dateTime (.bool true) precision)
  | dateTime onUpdate precision, .current _ => .ok (dateTime onUpdate precision)
  | _, _ => .error .noOperation

def perform (c : Column) : Call → Except Fault Column
  | .nullable flag => .ok { c with nullable := orTrue flag }
  | .default value isExpression =>
    .ok { c with default := value, isExpression := isExpression.getD (.bool false) }
  | .change => .ok c.changed
  | .delete => .ok c.deleted
  | .current expression =>
    (c.family.perform (.current expression)).map fun _ =>
      { c with default := expression.getD currentTimestamp, isExpression := .bool true }
  | .misfit call => (c.perform call).bind fun _ => .error .wrongType
  | .refused fault => .error fault
  | call => (c.family.perform call).map fun family => { c with family := family }

def performAll (c : Column) : List Call → Except Fault Column
  | [] => .ok c
  | call :: rest => (c.perform call).bind fun c => c.performAll rest

end Column

end FluentSql
