import FluentSql.Value.Reading

/-!
# Severities

The level of a report is a name, and a number by which levels compare. A
level is asked for in any case. Two words besides the levels are known but
stand for no number, and each is refused in its own way.
-/

set_option autoImplicit false

namespace FluentSql.Logging

def severities : List (String × Nat) :=
  [("CRITICAL", 50), ("FATAL", 50), ("ERROR", 40), ("WARNING", 30), ("WARN", 30), ("INFO", 20),
   ("DEBUG", 10), ("NOTSET", 0)]

def severity? (name : String) : Option Nat :=
  severities.lookup name

def formWord : String := "BASIC_FORMAT"

def plainForm : String := "%(levelname)s:%(name)s:%(message)s"

def formsWord : String := "_STYLES"

def severity (given : Value) : Except Fault Nat := do
  match ← given.upper with
  | .text name =>
    match severity? name with
    | some n => .ok n
    | none =>
      if name = formWord then .error (.reading (.level plainForm))
      else if name = formsWord then .error .wrongType
      else .error (.unknownLevel name)
  | _ => .error .wrongType

end FluentSql.Logging
