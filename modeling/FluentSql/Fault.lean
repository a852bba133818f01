import FluentSql.Number.Reading
import FluentSql.Value

/-!
# Faults

Everything that can go wrong, by the part of the program that notices it.
Each fault keeps what its message needs; the wording is in `Fault.message`.
-/

set_option autoImplicit false

namespace FluentSql

inductive QueryFault where
  | noTable
  | needsValue (column : String)
  | keyword (title : String) (given : Value) (allowed : List String)
  | betweenArity (column : String) (values : List Value)
  | joinOperands (table : String)
  | noConnection

inductive SchemaFault where
  | unknownColumn (column table : String)
  | idType (type : Value)
  | indexType (given : Value)
  | columnType (type : String)
  | missingTable (table : String)
  | reflectedType (type reason : String)

inductive GrammarFault where
  | dialect (name : String) (known : List String)
  | statement (kind : Value)

inductive ExecutionFault where
  | bindingCount (placeholders bindings : Nat) (sql : String)
  | rejected (reason : String)
  | listing (reason : String)
  | checking (table reason : String)
  | describing (table reason : String)

inductive ReadingFault where
  | integer (given : Value)
  | tooManyDigits (digits : Nat)
  /-- An integer with more digits than may be written. -/
  | unwritable
  | integerOfNotANumber (typeName : String)
  | columnState (given : Value)
  | pair (position size : Nat)
  | level (name : String)
  | zeroCharacter

inductive Fault where
  | query (fault : QueryFault)
  | schema (fault : SchemaFault)
  | grammar (fault : GrammarFault)
  | execution (fault : ExecutionFault)
  | reading (fault : ReadingFault)
  | unavailable (target attempts : String)
  | engine (reason : String)
  | wrongType
  | noOperation
  | unknownLevel (name : String)
  | missingKey (key : String)
  | infiniteInteger (typeName : String)
  | notRendered
  | address (given : Value)

instance : Inhabited Fault := ⟨.wrongType⟩

def QueryFault.message : QueryFault → String
  | noTable => "No table selected; call table() first"
  | needsValue column => "where('" ++ column ++ "') needs a value"
  | keyword title given allowed =>
    "Invalid " ++ title ++ " value " ++ given.shown ++ "; expected one of: "
      ++ ", ".intercalate allowed
  | betweenArity column values =>
    "BETWEEN on '" ++ column ++ "' needs exactly two values, got " ++ (Value.list values).shown
  | joinOperands table => "join('" ++ table ++ "') needs first, operator and second"
  | noConnection => "No connection configured for executing queries"

def SchemaFault.message : SchemaFault → String
  | unknownColumn column table =>
    "Column \"" ++ column ++ "\" not found in table \"" ++ table ++ "\""
  | idType type => "Invalid id column type " ++ type.shown
  | indexType given =>
    "Invalid index type " ++ given.shown ++ "; expected one of: normal, unique, primary"
  | columnType type => "Invalid column type " ++ Text.quoted type
  | missingTable table => "Table \"" ++ table ++ "\" does not exist"
  | reflectedType type reason => "Unsupported reflected type " ++ type ++ ": " ++ reason

def GrammarFault.message : GrammarFault → String
  | dialect name known =>
    "Unsupported SQL dialect '" ++ name ++ "'; expected one of: " ++ ", ".intercalate known
  | statement kind => "Unsupported statement type " ++ kind.shown

def ExecutionFault.message : ExecutionFault → String
  | bindingCount placeholders bindings sql =>
    "Statement has " ++ toString placeholders ++ " placeholder(s) but " ++ toString bindings
      ++ " binding(s): " ++ sql
  | rejected reason => "Query failed: " ++ reason
  | listing reason => "Failed to list tables: " ++ reason
  | checking table reason => "Failed to check table " ++ table ++ ": " ++ reason
  | describing table reason => "Failed to describe table " ++ table ++ ": " ++ reason

def excerptLength : Nat := 200

def excerpt (given : Value) : String :=
  let kept : Value := match given with
    | .bytes bs => .bytes (bs.take excerptLength)
    | v => v
  String.ofList (kept.shown.toList.take excerptLength)

def ReadingFault.message : ReadingFault → String
  | integer given => "invalid literal for int() with base 10: " ++ excerpt given
  | tooManyDigits digits =>
    "Exceeds the limit (" ++ toString digitLimit
      ++ " digits) for integer string conversion: value has " ++ toString digits
      ++ " digits; use sys.set_int_max_str_digits() to increase the limit"
  | unwritable =>
    "Exceeds the limit (" ++ toString digitLimit
      ++ " digits) for integer string conversion; use sys.set_int_max_str_digits() to increase"
      ++ " the limit"
  | integerOfNotANumber typeName => "cannot convert " ++ typeName ++ "NaN to integer"
  | columnState given => given.shown ++ " is not a valid ColumnState"
  | pair position size =>
    "dictionary update sequence element #" ++ toString position ++ " has length "
      ++ toString size ++ "; 2 is required"
  | level name => "Unknown level: " ++ Text.quoted name
  | zeroCharacter => "embedded null byte"

def Fault.message : Fault → String
  | query fault => fault.message
  | schema fault => fault.message
  | grammar fault => fault.message
  | execution fault => fault.message
  | reading fault => fault.message
  | unavailable target attempts =>
    "Database at " ++ target ++ " did not become available after " ++ attempts ++ " attempts"
  | engine reason => reason
  | wrongType | noOperation | notRendered | unknownLevel _ => ""
  | missingKey key => Text.quoted key
  | infiniteInteger typeName => "cannot convert " ++ typeName ++ " to integer"
  | address (.text _) => "Could not parse SQLAlchemy URL from given URL string"
  | address given => "Expected string or URL object, got " ++ given.shown

end FluentSql
