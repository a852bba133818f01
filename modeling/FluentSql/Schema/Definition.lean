import FluentSql.Dialect
import FluentSql.Schema.Column
import FluentSql.Schema.Index

/-!
# Columns and indexes in SQL

How each dialect writes a column: its type, whether it may be null, its
default and what follows; how it redefines one; and how an index is created.
A definition joins its parts, so each part that is not empty has to be text. The
size of a type is written with the limit that also holds when it is read back.
-/

set_option autoImplicit false

namespace FluentSql

def spacedWords (words : List Value) : Except Fault String :=
  (Value.texts (words.filter Value.truthy)).map fun texts => " ".intercalate texts

namespace Dialect

/-! ## Types -/

def sized (type size : Value) : Except Fault String :=
  size.written.map fun size => type.plain ++ "(" ++ size ++ ")"

def enumerated (d : Dialect) (values : List Value) : String :=
  ", ".intercalate (values.map fun v => d.literals.text v.plain)

def mysqlType (c : Column) : Except Fault Value :=
  match c.family with
  | .integer length isUnsigned _ =>
    (sized c.type length).map fun type =>
      .text (type ++ if isUnsigned.truthy then " UNSIGNED" else "")
  | .string length => (sized c.type length).map .text
  | .dateTime _ precision =>
    if precision.truthy then (sized c.type precision).map .text else .ok c.type
  | .enumeration values => .ok (.text ("ENUM(" ++ enumerated .mysql values ++ ")"))
  | .plain | .text => .ok c.type

def integerTypes : List (String × String) :=
  [("TINYINT", "SMALLINT"), ("SMALLINT", "SMALLINT"), ("MEDIUMINT", "INTEGER"),
   ("INT", "INTEGER"), ("INTEGER", "INTEGER"), ("BIGINT", "BIGINT")]

def serialTypes : List (String × String) :=
  [("SMALLINT", "SMALLSERIAL"), ("INTEGER", "SERIAL"), ("BIGINT", "BIGSERIAL")]

def textTypes : List (String × String) :=
  [("TEXT", "TEXT"), ("MEDIUMTEXT", "TEXT"), ("LONGTEXT", "TEXT"), ("JSON", "JSONB")]

def dateTimeTypes : List (String × String) :=
  [("DATETIME", "TIMESTAMP"), ("TIMESTAMP", "TIMESTAMP"), ("DATE", "DATE"), ("TIME", "TIME")]

def renamed (types : List (String × String)) (type : Value) : Value :=
  match type with
  | .text name => .text ((types.lookup name).getD name)
  | other => other

def hasPrecision (type : Value) : Bool :=
  match type with
  | .text name => name == "TIMESTAMP" || name == "TIME"
  | _ => false

def postgresqlType (c : Column) : Except Fault Value :=
  match c.family with
  | .integer _ _ increments =>
    let type := renamed integerTypes c.type
    .ok (if increments.truthy then renamed serialTypes type else type)
  | .string length => (sized c.type length).map .text
  | .text => .ok (renamed textTypes c.type)
  | .dateTime _ precision =>
    let type := renamed dateTimeTypes c.type
    if precision.truthy && hasPrecision type then (sized type precision).map .text else .ok type
  | .enumeration _ => .ok (.text "VARCHAR(255)")
  | .plain => .ok c.type

def columnType : Dialect → Column → Except Fault Value
  | mysql => mysqlType
  | postgresql => postgresqlType

/-- An existing column cannot become a serial one. -/
def alteredType (c : Column) : Except Fault Value :=
  match c.family with
  | .integer _ _ _ => .ok (renamed integerTypes c.type)
  | _ => postgresqlType c

/-! ## Definitions -/

def nullability (c : Column) : String :=
  if c.nullable.truthy then "NULL" else "NOT NULL"

def defaultClause (d : Dialect) (c : Column) : String :=
  match c.default with
  | .null => ""
  | v => "DEFAULT " ++ if c.isExpression.truthy then v.plain else d.literals.value v

def extra (d : Dialect) (c : Column) : String :=
  match d, c.family with
  | mysql, .integer _ _ increments => if increments.truthy then "AUTO_INCREMENT" else ""
  | mysql, .dateTime onUpdate _ => if onUpdate.truthy then "ON UPDATE CURRENT_TIMESTAMP" else ""
  | postgresql, .enumeration values =>
    "CHECK (" ++ c.name.plain ++ " IN (" ++ enumerated postgresql values ++ "))"
  | _, _ => ""

def columnDefinition (d : Dialect) (c : Column) : Except Fault String := do
  let type ← d.columnType c
  spacedWords [c.name, type, .text (nullability c), .text (d.defaultClause c),
    .text (d.extra c)]

def modifyClauses (d : Dialect) (c : Column) : Except Fault (List String) :=
  match d with
  | mysql => (d.columnDefinition c).map fun definition => ["MODIFY COLUMN " ++ definition]
  | postgresql =>
    (alteredType c).map fun type =>
      let altered := "ALTER COLUMN " ++ c.name.plain ++ " "
      let retyped := altered ++ "TYPE " ++ type.plain
      let nullability := altered ++ if c.nullable.truthy then "DROP NOT NULL" else "SET NOT NULL"
      let default := d.defaultClause c
      [retyped, nullability] ++ if default.isEmpty then [] else [altered ++ "SET " ++ default]

/-- Without a database there is no type to write. -/
def definitionIn (d : Option Dialect) (c : Column) : Except Fault String :=
  match d with
  | some d => d.columnDefinition c
  | none => .error .notRendered

def modificationIn (d : Option Dialect) (c : Column) : Except Fault (List String) :=
  match d with
  | some d => d.modifyClauses c
  | none => .error .notRendered

end Dialect

def Index.definition (i : Index) : Except Fault String :=
  i.columnText.map fun columns =>
    let target := i.name.plain ++ " ON " ++ i.table.plain ++ " (" ++ columns ++ ")"
    match i.kind with
    | .primary => "ALTER TABLE " ++ i.table.plain ++ " ADD PRIMARY KEY (" ++ columns ++ ")"
    | .unique => "CREATE UNIQUE INDEX " ++ target
    | .normal => "CREATE INDEX " ++ target

end FluentSql
