import FluentSql.Text.Numeral

/-!
# Decimals

A decimal keeps its exponent, so `1.50` and `1.5` are different. It is
written with all digits of its coefficient: plainly when the exponent is not
positive and few zeros are needed, with an exponent otherwise.
-/

set_option autoImplicit false

namespace FluentSql

inductive Decimal where
  | finite (negative : Bool) (coefficient : Nat) (exponent : Int)
  | infinite (negative : Bool)
  | notANumber (negative : Bool)
  deriving DecidableEq

namespace Decimal

/-- Digits with the point after the first `place` of them, filled up with zeros. -/
def pointed (digits : List Char) (place : Int) : List Char :=
  if place ≤ 0 then '0' :: '.' :: List.replicate (-place).toNat '0' ++ digits
  else if digits.length ≤ place.toNat then
    digits ++ List.replicate (place.toNat - digits.length) '0'
  else digits.take place.toNat ++ '.' :: digits.drop place.toNat

def magnitudeText (coefficient : Nat) (exponent : Int) : List Char :=
  let digits := Text.natural coefficient
  let place := exponent + digits.length
  if exponent ≤ 0 && -6 < place then pointed digits place
  else
    let scale := place - 1
    pointed digits 1 ++
      if scale = 0 then [] else 'E' :: (if scale < 0 then '-' else '+') :: Text.natural scale.natAbs

def signed (negative : Bool) (cs : List Char) : String :=
  String.ofList (if negative then '-' :: cs else cs)

def text : Decimal → String
  | .finite negative coefficient exponent => signed negative (magnitudeText coefficient exponent)
  | .infinite negative => signed negative "Infinity".toList
  | .notANumber negative => signed negative "NaN".toList

def isZero : Decimal → Bool
  | .finite _ 0 _ => true
  | _ => false

def truncated (negative : Bool) (coefficient : Nat) (exponent : Int) : Int :=
  let whole := coefficient * Nat.pow 10 exponent.toNat / Nat.pow 10 (-exponent).toNat
  if negative then -whole else whole

end Decimal

end FluentSql
