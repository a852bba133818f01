import FluentSql.Number.Binary64

/-!
# The double nearest to a decimal

A fraction of natural numbers is rounded once, half to even, to 53 bits or to
the least unit of the subnormal doubles. Reading a decimal text rounds the
exact value it denotes.
-/

set_option autoImplicit false

namespace FluentSql.Binary64

def ofMagnitude (negative : Bool) (magnitude : Nat) : Binary64 :=
  ⟨UInt64.ofNat (magnitude + if negative then Nat.pow 2 63 else 0)⟩

def infinity (negative : Bool) : Binary64 :=
  ofMagnitude negative (2047 * Nat.pow 2 52)

def nan : Binary64 :=
  ofMagnitude false (2047 * Nat.pow 2 52 + Nat.pow 2 51)

def roundedQuotient (num den : Nat) : Nat :=
  let below := num / den
  let twice := 2 * (num % den)
  if twice < den || (twice = den && below % 2 = 0) then below else below + 1

/-- The exponent of two that leaves a 53-bit quotient, no less than the subnormal unit. -/
def unitExponent (num den : Nat) : Int :=
  let estimate : Int := (Nat.log2 num : Int) - Nat.log2 den - 52
  let fits := decide
    (Nat.pow 2 52 * den * Nat.pow 2 estimate.toNat ≤ num * Nat.pow 2 (-estimate).toNat)
  max (-1074) (if fits then estimate else estimate - 1)

/-- A carry out of the significand moves on to the exponent field by itself. -/
def nearest (negative : Bool) (num den : Nat) : Binary64 :=
  if num = 0 then ofMagnitude negative 0
  else
    let unit := unitExponent num den
    let significand :=
      roundedQuotient (num * Nat.pow 2 (-unit).toNat) (den * Nat.pow 2 unit.toNat)
    let magnitude := (unit + 1074).toNat * Nat.pow 2 52 + significand
    if 2047 * Nat.pow 2 52 ≤ magnitude then infinity negative else ofMagnitude negative magnitude

def decimalValue (digits : List Char) : Nat :=
  digits.foldl (fun n c => 10 * n + (c.toNat - '0'.toNat)) 0

def unsignedInt? (digits : List Char) : Option Nat :=
  if digits.isEmpty || !digits.all Char.isDigit then none else some (decimalValue digits)

def signedInt? : List Char → Option Int
  | '-' :: digits => (unsignedInt? digits).map fun n => -n
  | '+' :: digits => (unsignedInt? digits).map fun n => n
  | digits => (unsignedInt? digits).map fun n => n

/-- A number below ten to the power of its digits, in units of a power of ten; beyond four
hundred powers on either side the range of doubles has ended, and the power is not formed. -/
def ofScaled (negative : Bool) (n digits : Nat) (scale : Int) : Binary64 :=
  if n = 0 || scale + digits < -400 then ofMagnitude negative 0
  else if 400 < scale then infinity negative
  else nearest negative (n * Nat.pow 10 scale.toNat) (Nat.pow 10 (-scale).toNat)

def readMagnitude? (negative : Bool) (cs : List Char) : Option Binary64 := do
  let mantissa := cs.takeWhile fun c => c ≠ 'e' && c ≠ 'E'
  let exponent ← match cs.drop mantissa.length with
    | [] => some 0
    | _ :: digits => signedInt? digits
  let whole := mantissa.takeWhile (· ≠ '.')
  let places := (mantissa.drop whole.length).drop 1
  let n ← unsignedInt? (whole ++ places)
  some (ofScaled negative n (whole.length + places.length) (exponent - places.length))

def readUnsigned? (negative : Bool) (cs : List Char) : Option Binary64 :=
  match String.ofList (cs.map Char.toLower) with
  | "inf" | "infinity" => some (infinity negative)
  | "nan" => some nan
  | _ => readMagnitude? negative cs

def read? (text : String) : Option Binary64 :=
  match text.toList with
  | '-' :: cs => readUnsigned? true cs
  | '+' :: cs => readUnsigned? false cs
  | cs => readUnsigned? false cs

end FluentSql.Binary64
