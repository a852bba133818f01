import FluentSql.Fault
import FluentSql.Keyed
import FluentSql.Text.Casing
import FluentSql.Text.Utf8
import FluentSql.Value.Same

/-!
# Reading values

A value is read as its elements, as texts to be joined, in upper or lower
case, as an integer or as an ordered list of assignments; each reading says
which fault arises when the value does not allow it. An integer is read from a
text up to a limit on the number of its digits, and a text that is to be read
again is written up to the same limit.
-/

set_option autoImplicit false

namespace FluentSql.Value

def elements (v : Value) : Except Fault (List Value) :=
  match v.elements? with
  | some items => .ok items
  | none => .error .wrongType

def texts (items : List Value) : Except Fault (List String) :=
  match texts? items with
  | some names => .ok names
  | none => .error .wrongType

def joined : Value → Except Fault String
  | text s => .ok s
  | v => do
    let items ← v.elements
    let parts ← texts items
    .ok (String.join parts)

theorem texts_map_text (names : List String) : texts (names.map text) = .ok names := by
  simp [texts, texts?_map_text]

/-- The system takes a text without the character zero: a path, or a part of the environment. -/
def systemText : Value → Except Fault String
  | text s => if s.toList.contains (Char.ofNat 0) then .error (.reading .zeroCharacter) else .ok s
  | _ => .error .wrongType

def upper : Value → Except Fault Value
  | text s => .ok (text (Text.upper s))
  | bytes bs => .ok (bytes (bs.map Text.upperByte))
  | _ => .error .noOperation

def lower : Value → Except Fault Value
  | text s => .ok (text (Text.lower s))
  | bytes bs => .ok (bytes (bs.map Text.lowerByte))
  | _ => .error .noOperation

mutual

/-- No integer in the value has more digits than may be written. -/
def isWritable : Value → Bool
  | int n => (Text.natural n.natAbs).length ≤ digitLimit
  | list items => allWritable items
  | map entries => entriesWritable entries
  | _ => true

def allWritable : List Value → Bool
  | [] => true
  | v :: rest => v.isWritable && allWritable rest

def entriesWritable : List (String × Value) → Bool
  | [] => true
  | (_, v) :: rest => v.isWritable && entriesWritable rest

end

/-- The plain text, unless it would be that of too long an integer. -/
def written (v : Value) : Except Fault String :=
  if v.isWritable then .ok v.plain else .error (.reading .unwritable)

theorem written_eq {v : Value} {s : String} (h : v.written = .ok s) : v.plain = s := by
  unfold written at h
  split at h
  · exact Except.ok.inj h
  · cases h

def integerOf (v : Value) (written : String) : Except Fault Int :=
  match readInteger written with
  | .ok n => .ok n
  | .error .malformed => .error (.reading (.integer v))
  | .error (.tooLong digits) => .error (.reading (.tooManyDigits digits))

def asciiChar (b : UInt8) : Char :=
  if b < 0x80 then Char.ofNat b.toNat else Text.Utf8.replacement

/-- Numbers lose their fraction, toward zero; text must be a written integer. -/
def toInteger : Value → Except Fault Int
  | bool b => .ok (if b then 1 else 0)
  | int n => .ok n
  | float x =>
    match x.meaning with
    | .notANumber => .error (.reading (.integerOfNotANumber "float "))
    | .infinite _ => .error (.infiniteInteger "float infinity")
    | .finite negative significand exponent =>
      .ok (Binary64.truncated negative significand exponent)
  | decimal (.notANumber _) => .error (.reading (.integerOfNotANumber ""))
  | decimal (.infinite _) => .error (.infiniteInteger "Infinity")
  | decimal (.finite negative coefficient exponent) =>
    .ok (Decimal.truncated negative coefficient exponent)
  | text s => integerOf (text s) s
  | bytes bs => integerOf (bytes bs) (String.ofList (bs.map asciiChar))
  | _ => .error .wrongType

/-- Assignments of values to names; a repeated name keeps its place and takes the last value. -/
abbrev Assignments := List (String × Value)

def Assignments.ofList (entries : List (String × Value)) : Assignments :=
  Keyed.ofList entries

def assignment (position : Nat) (v : Value) : Except Fault (Value × Value) :=
  match v.elements? with
  | some [key, value] => if key.isKey then .ok (key, value) else .error .wrongType
  | some items => .error (.reading (.pair position items.length))
  | none => .error .wrongType

def assignmentsFrom (position : Nat) : List Value → Except Fault (List (Value × Value))
  | [] => .ok []
  | v :: rest => do
    let first ← assignment position v
    let others ← assignmentsFrom (position + 1) rest
    .ok (first :: others)

def toAssignments : Value → Except Fault (List (Value × Value))
  | map entries => .ok (Keyed.ofList (entries.map fun entry => (text entry.1, entry.2)))
  | v => do
    let items ← v.elements
    let entries ← assignmentsFrom 0 items
    .ok (Keyed.ofList entries)

end FluentSql.Value
