import FluentSql.Text.Blank
import FluentSql.Text.Casing
import FluentSql.Value.Reading

/-!
# Indexes

An index names a table, some of its columns and a kind. Without a name of its
own it is called after all three, in lower case, with no hyphens or dots. A
name of its own is kept as given.
-/

set_option autoImplicit false

namespace FluentSql

namespace Index

inductive Kind where
  | normal
  | unique
  | primary
  deriving DecidableEq, Repr

def Kind.word : Kind → String
  | normal => "normal"
  | unique => "unique"
  | primary => "primary"

def Kind.read (given : Value) : Except Fault Kind :=
  let refusal : Except Fault Kind := .error (.schema (.indexType given))
  match given with
  | .text s =>
    match Text.lower s with
    | "normal" => .ok normal
    | "unique" => .ok unique
    | "primary" => .ok primary
    | _ => refusal
  | _ => refusal

end Index

structure Index where
  table : Value
  columns : List Value
  name : Value
  kind : Index.Kind

namespace Index

def columnList : Value → Except Fault (List Value)
  | .text s =>
    .ok ((s.toList.splitOn ',').map fun name => .text (String.ofList (Text.trimChars name)))
  | v => v.elements

def plainChar (c : Char) : Char :=
  if c = '-' || c = '.' then '_' else c

def nameFor (table : Value) (columns : List String) (kind : Kind) : String :=
  let written := table.plain ++ "_" ++ "_".intercalate columns ++ "_" ++ kind.word
  String.ofList ((Text.lower written).toList.map plainChar)

def build (table : Value) (kind : Kind) (columns : Value) (name : Value) : Except Fault Index := do
  let columns ← columnList columns
  let name ←
    if name.truthy then .ok name
    else (Value.texts columns).map fun names => .text (nameFor table names kind)
  .ok { table := table, columns := columns, name := name, kind := kind }

def ofGiven (table columns name : Value) (kind : Option Value) : Except Fault Index := do
  let kind ← match kind with
    | none => .ok Kind.normal
    | some given => Kind.read given
  build table kind columns name

def columnText (i : Index) : Except Fault String :=
  (Value.texts i.columns).map fun names => ", ".intercalate names

def shown (i : Index) : Except Fault String :=
  i.columnText.map fun columns =>
    "IndexDefinition(name=" ++ i.name.shown ++ ", type=" ++ i.kind.word
      ++ ", columns=" ++ Text.quoted columns ++ ")"

end Index

end FluentSql
