import FluentSql.Fault
import FluentSql.Scan.Placeholder
import FluentSql.Text.Word
import FluentSql.Value.Reading

/-!
# Named binds

The engine reads a colon before a word as the start of a named bind. A
prepared statement has a bind in the place of each placeholder, and a
backslash before every other colon that would be read as one.
-/

set_option autoImplicit false

namespace FluentSql.Connection

/-- A colon after a colon, a word or a backslash starts no bind. -/
def shieldsColon (before : Option Char) : Bool :=
  match before with
  | none => false
  | some c => decide (c = ':') || decide (c = '\\') || Text.isWord c

def startsWord : List Char → Bool
  | [] => false
  | c :: _ => Text.isWord c

def escapeColons (before : Option Char) : List Char → List Char
  | [] => []
  | c :: rest =>
    if c = ':' && !shieldsColon before && startsWord rest then
      '\\' :: ':' :: escapeColons (some c) rest
    else c :: escapeColons (some c) rest

def bindName (i : Nat) : String :=
  "b" ++ Value.intText i

structure Prepared where
  statement : String
  parameters : Value.Assignments

def parametersFrom (i : Nat) : List Value → Value.Assignments
  | [] => []
  | v :: rest => (bindName i, v) :: parametersFrom (i + 1) rest

/-- Every placeholder needs a value, and every value a placeholder. -/
def prepare (sql : String) (values : List Value) : Except Fault Prepared :=
  let count := Scan.placeholderCount sql
  if count ≠ values.length then
    .error (.execution (.bindingCount count values.length sql))
  else
    let escaped := String.ofList (escapeColons none sql.toList)
    .ok {
      statement := Scan.fill (fun i => some (":" ++ bindName i)) escaped
      parameters := parametersFrom 0 values }

end FluentSql.Connection
