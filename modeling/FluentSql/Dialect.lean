import FluentSql.Value.Reading

/-!
# Dialects and literals

A literal style says how text and truth values are written; every other
value is written alike. The two database dialects each have a style, and the
plain style belongs to no database. A dialect is found by name.
-/

set_option autoImplicit false

namespace FluentSql

structure LiteralStyle where
  /-- A backslash in text has a meaning and is doubled. -/
  doublesBackslash : Bool
  trueWord : String
  falseWord : String

namespace LiteralStyle

def standard : LiteralStyle := ⟨false, "1", "0"⟩

def mysql : LiteralStyle := ⟨true, "1", "0"⟩

def postgresql : LiteralStyle := ⟨false, "TRUE", "FALSE"⟩

def textBody (style : LiteralStyle) : List Char → List Char
  | [] => []
  | c :: cs =>
    if c = '\'' then '\'' :: '\'' :: style.textBody cs
    else if c = '\\' && style.doublesBackslash then '\\' :: '\\' :: style.textBody cs
    else c :: style.textBody cs

def text (style : LiteralStyle) (s : String) : String :=
  String.ofList ('\'' :: style.textBody s.toList ++ ['\''])

def value (style : LiteralStyle) : Value → String
  | .null => "NULL"
  | .bool b => if b then style.trueWord else style.falseWord
  | .int n => (Value.int n).plain
  | .float x => x.text
  | .decimal d => d.text
  | .dateTime t => style.text t.literal
  | .date d => style.text d.iso
  | .time t => style.text t.iso
  | .bytes bs => style.text (Text.Utf8.decode bs)
  | v => style.text v.plain

theorem textBody_append (style : LiteralStyle) (xs ys : List Char) :
    style.textBody (xs ++ ys) = style.textBody xs ++ style.textBody ys := by
  induction xs with
  | nil => rfl
  | cons x xs ih =>
    simp only [List.cons_append, textBody, ih]
    split
    · rfl
    · split <;> rfl

end LiteralStyle

inductive Dialect where
  | mysql
  | postgresql
  deriving DecidableEq, Repr

namespace Dialect

def literals : Dialect → LiteralStyle
  | mysql => .mysql
  | postgresql => .postgresql

def name : Dialect → String
  | mysql => "mysql"
  | postgresql => "postgresql"

def known : List (String × Dialect) :=
  [("mariadb", mysql), ("mysql", mysql), ("postgres", postgresql), ("postgresql", postgresql)]

def find (given : Value) : Except Fault Dialect := do
  let name ← given.lower
  let found := match name with
    | .text name => known.lookup name
    | _ => none
  match found with
  | some dialect => .ok dialect
  | none => .error (.grammar (.dialect name.plain (known.map Prod.fst)))

/-- Without a name, or with an empty one, the configured dialect is used. -/
def resolve (configured given : Value) : Except Fault Dialect :=
  find (if given.truthy then given else configured)

def shown : Dialect → String
  | mysql => "MySQLDialect()"
  | postgresql => "PostgreSQLDialect()"

def queryGrammar (d : Dialect) : String :=
  "Grammar(dialect=" ++ Text.quoted d.name ++ ")"

def schemaGrammar (d : Dialect) : String :=
  "SchemaGrammar(dialect=" ++ Text.quoted d.name ++ ")"

end Dialect

end FluentSql
