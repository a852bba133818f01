import FluentSql.Number.Decimal
import FluentSql.Text.Blank
import FluentSql.Text.Digit

/-!
# Reading numbers

An integer may stand between spacing, with a sign, in the digits of any
script, and single underscores may part its digits. A limit on the number of
its digits is checked as soon as they are read, before what follows them. A
decimal is digits with at most one point and an exponent.
-/

set_option autoImplicit false

namespace FluentSql

inductive IntegerRefusal where
  | malformed
  | tooLong (digits : Nat)
  deriving DecidableEq, Repr

/-- Leading zeros count as digits, underscores do not. -/
def digitLimit : Nat := 4300

/-- The digits that go on after a digit, and what follows them. An underscore must stand between
two digits. -/
def moreDigits? : List Char → Option (List Nat × List Char)
  | [] => some ([], [])
  | '_' :: [] => none
  | '_' :: c :: rest =>
    (Text.decimalDigit? c).bind fun d => (moreDigits? rest).map fun r => (d :: r.1, r.2)
  | c :: rest =>
    match Text.decimalDigit? c with
    | some d => (moreDigits? rest).map fun r => (d :: r.1, r.2)
    | none => some ([], c :: rest)

def digits? : List Char → Option (List Nat × List Char)
  | [] => none
  | c :: rest =>
    (Text.decimalDigit? c).bind fun d => (moreDigits? rest).map fun r => (d :: r.1, r.2)

def decimalValue (digits : List Nat) : Nat :=
  digits.foldl (fun n d => 10 * n + d) 0

def unsigned? (cs : List Char) : Option Nat :=
  match digits? cs with
  | some (digits, []) => some (decimalValue digits)
  | _ => none

def limitedDigits (cs : List Char) : Except IntegerRefusal Nat :=
  match digits? cs with
  | none => .error .malformed
  | some (digits, rest) =>
    if digitLimit < digits.length then .error (.tooLong digits.length)
    else if rest.all Text.isSpacing then .ok (decimalValue digits)
    else .error .malformed

def readInteger (text : String) : Except IntegerRefusal Int :=
  match text.toList.dropWhile Text.isSpacing with
  | '-' :: cs => (limitedDigits cs).map fun n => -n
  | '+' :: cs => (limitedDigits cs).map fun n => n
  | cs => (limitedDigits cs).map fun n => n

namespace Decimal

def readMagnitude? (negative : Bool) (cs : List Char) : Option Decimal := do
  let mantissa := cs.takeWhile fun c => c ≠ 'e' && c ≠ 'E'
  let exponent ← match cs.drop mantissa.length with
    | [] => some 0
    | _ :: digits => (readInteger (String.ofList digits)).toOption
  let whole := mantissa.takeWhile (· ≠ '.')
  let places := (mantissa.drop whole.length).drop 1
  let coefficient ← unsigned? (whole ++ places)
  some (.finite negative coefficient (exponent - places.length))

def readUnsigned? (negative : Bool) (cs : List Char) : Option Decimal :=
  if cs = "Infinity".toList then some (.infinite negative)
  else if cs = "NaN".toList then some (.notANumber negative)
  else readMagnitude? negative cs

def read? (text : String) : Option Decimal :=
  match text.toList with
  | '-' :: cs => readUnsigned? true cs
  | '+' :: cs => readUnsigned? false cs
  | cs => readUnsigned? false cs

end Decimal

end FluentSql
