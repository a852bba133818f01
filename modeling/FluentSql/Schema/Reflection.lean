import FluentSql.Schema.Column
import FluentSql.Text.Word

/-!
# Columns read back from a database

A description, as a database gives it, becomes an unchanged column. Its type
is a word, perhaps arguments in parentheses, and a rest; its default is
an expression, a quoted text, or a value.
-/

set_option autoImplicit false

namespace FluentSql

structure Description where
  name : Option Value := none
  type : Option Value := none
  nullable : Option Value := none
  default : Option Value := none
  increments : Option Value := none
  extra : Option Value := none

namespace Description

/-! ## Type texts -/

structure TypeText where
  base : List Char
  arguments : Option (List Char)
  rest : List Char

def splitAtLast : List Char → Option (List Char × List Char)
  | [] => none
  | c :: cs =>
    match splitAtLast cs with
    | some (before, after) => some (c :: before, after)
    | none => if c = ')' then some ([], cs) else none

def argumentsOf (cs : List Char) : Option (List Char) × List Char :=
  match cs with
  | '(' :: inner =>
    match splitAtLast inner with
    | some (arguments, rest) => (some arguments, rest)
    | none => (none, cs)
  | _ => (none, cs)

def TypeText.read? (written : List Char) : Option TypeText :=
  let cs := Text.trimStart written
  match cs.takeWhile Text.isWord with
  | [] => none
  | base =>
    let (arguments, rest) := argumentsOf (Text.trimStart (cs.dropWhile Text.isWord))
    some { base := base, arguments := arguments, rest := rest }

def mentions (word : List Char) : List Char → Bool
  | [] => word.isEmpty
  | c :: cs => word.isPrefixOf (c :: cs) || mentions word cs

/-- A size that consists of digits is read; anything else gives the usual one. -/
def size (arguments : Option (List Char)) (usual : Int) : Except Fault Value :=
  match arguments with
  | none => .ok (.int usual)
  | some cs =>
    let digits := Text.trimChars cs
    if !digits.isEmpty && digits.all Text.isDigit then
      (Value.text (String.ofList cs)).toInteger.map .int
    else .ok (.int usual)

/-! ## Enumerations -/

/-- The text up to a closing quote, and what follows it. A doubled quote is part of the text as
long as a closing one comes after it. -/
def untilQuote : List Char → Option (List Char × List Char)
  | [] => none
  | '\'' :: '\'' :: rest =>
    match untilQuote rest with
    | some (before, after) => some ('\'' :: '\'' :: before, after)
    | none => some ([], '\'' :: rest)
  | '\'' :: rest => some ([], rest)
  | c :: rest => (untilQuote rest).map fun r => (c :: r.1, r.2)

theorem untilQuote_length {cs before after : List Char}
    (h : untilQuote cs = some (before, after)) : after.length < cs.length := by
  fun_induction untilQuote cs generalizing before after with
  | case1 => simp at h
  | case2 rest inner following found ih =>
    obtain ⟨rfl, rfl⟩ := by simpa using h
    have := ih found
    simp only [List.length_cons]
    omega
  | case3 rest found ih =>
    obtain ⟨rfl, rfl⟩ := by simpa using h
    simp
  | case4 rest =>
    obtain ⟨rfl, rfl⟩ := by simpa using h
    simp
  | case5 c rest _ _ ih =>
    obtain ⟨⟨inner, following⟩, found, same⟩ := Option.map_eq_some_iff.mp h
    obtain ⟨rfl, rfl⟩ := by simpa using same
    have := ih found
    simp only [List.length_cons]
    omega

def undoubled : List Char → List Char
  | [] => []
  | '\'' :: '\'' :: rest => '\'' :: undoubled rest
  | c :: rest => c :: undoubled rest

def quotedTexts : List Char → List String
  | [] => []
  | '\'' :: rest =>
    match h : untilQuote rest with
    | some (before, after) =>
      have := untilQuote_length h
      String.ofList (undoubled before) :: quotedTexts after
    | none => quotedTexts rest
  | _ :: rest => quotedTexts rest
  termination_by cs => cs.length

/-! ## Families -/

def integerTypes : List (String × String) :=
  [("int", "INT"), ("integer", "INT"), ("bigint", "BIGINT"), ("smallint", "SMALLINT"),
   ("tinyint", "TINYINT"), ("mediumint", "MEDIUMINT")]

def stringTypes : List (String × String) :=
  [("varchar", "VARCHAR"), ("char", "CHAR")]

def textTypes : List (String × String) :=
  [("text", "TEXT"), ("tinytext", "TEXT"), ("mediumtext", "MEDIUMTEXT"),
   ("longtext", "LONGTEXT"), ("json", "JSON")]

def dateTimeTypes : List (String × String) :=
  [("datetime", "DATETIME"), ("timestamp", "TIMESTAMP"), ("date", "DATE"), ("time", "TIME")]

def extraText (d : Description) : List Char :=
  match d.extra with
  | some v => if v.truthy then Text.lowerChars v.plain.toList else []
  | none => []

def increasing (d : Description) : Bool :=
  let stated := match d.increments with
    | some (.bool b) => b
    | _ => false
  stated || mentions "auto_increment".toList d.extraText

def family (d : Description) (written : String) (t : TypeText) :
    Except Fault (String × Column.Family) :=
  let base := Text.lower (String.ofList t.base)
  match integerTypes.lookup base, stringTypes.lookup base, textTypes.lookup base,
    dateTimeTypes.lookup base with
  | some type, _, _, _ =>
    (size t.arguments 11).map fun length =>
      let isUnsigned := mentions "unsigned".toList (Text.lowerChars t.rest)
      (type, .integer length (.bool isUnsigned) (.bool d.increasing))
  | none, some type, _, _ => (size t.arguments 255).map fun length => (type, .string length)
  | none, none, some type, _ => .ok (type, .text)
  | none, none, none, some type =>
    (size t.arguments 0).map fun precision =>
      (type, .dateTime (.bool (mentions "on update".toList d.extraText)) precision)
  | none, none, none, none =>
    if base = "enum" then
      let texts := quotedTexts (t.arguments.getD [])
      .ok ("ENUM", .enumeration (texts.map Value.text))
    else .error (.schema (.columnType written))

/-! ## Defaults -/

def foldedChar (c : Char) : Char :=
  if c = 'ſ' then 's'
  else if c = 'ı' || c = 'İ' then 'i'
  else c.toLower

/-- The current time, with or without a precision, and null are written as expressions. -/
def isExpression (cs : List Char) : Bool :=
  let now := "current_timestamp".toList
  let folded := cs.map foldedChar
  folded == "null".toList || folded == "now()".toList || folded == now ||
    match now.isPrefixOf folded, folded.drop now.length with
    | true, '(' :: inner =>
      inner.getLast? == some ')' && inner.dropLast.all Text.isDecimalDigit
    | _, _ => false

def withoutQuotes (cs : List Char) : List Char :=
  match cs with
  | '\'' :: rest =>
    if !rest.isEmpty && rest.getLast? == some '\'' then undoubled rest.dropLast else cs
  | _ => cs

def readDefault : Option Value → Value × Bool
  | none => (.null, false)
  | some (.text s) =>
    let cs := Text.trimChars s.toList
    if isExpression cs then
      let written := String.ofList (Text.upperChars cs)
      if written = "NULL" then (.null, false) else (.text written, true)
    else (.text (String.ofList (withoutQuotes cs)), false)
  | some v => (v, false)

def required (key : String) (v : Option Value) : Except Fault Value :=
  match v with
  | some v => .ok v
  | none => .error (.missingKey key)

def column (d : Description) : Except Fault Column := do
  let type ← required "type" d.type
  let written := type.plain
  match TypeText.read? written.toList with
  | none => .error (.schema (.columnType written))
  | some t =>
    let name ← required "name" d.name
    let (type, family) ← d.family written t
    let (default, isExpression) := readDefault d.default
    .ok {
      name := name
      type := .text type
      nullable := .bool ((d.nullable.getD (.bool true)).truthy)
      default := default
      isExpression := .bool isExpression
      state := .unchanged
      family := family }

end Description

end FluentSql
