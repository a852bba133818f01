import FluentSql.Text.Numeral

/-!
# Doubles and their shortest decimal text

A double is kept as its 64 bits. A finite one is a sign and a dyadic number
`significand · 2 ^ exponent`. It is written with the fewest digits that lie
in the interval of numbers rounding to it, the nearest of those to the exact
value, all in exact arithmetic on natural numbers.
-/

set_option autoImplicit false

namespace FluentSql

structure Binary64 where
  bits : UInt64
  deriving DecidableEq

namespace Binary64

inductive Meaning where
  | notANumber
  | infinite (negative : Bool)
  | finite (negative : Bool) (significand : Nat) (exponent : Int)

def field (x : Binary64) : Nat := x.bits.toNat / Nat.pow 2 52 % Nat.pow 2 11

def fraction (x : Binary64) : Nat := x.bits.toNat % Nat.pow 2 52

def isNegative (x : Binary64) : Bool := x.bits.toNat / Nat.pow 2 63 == 1

def meaning (x : Binary64) : Meaning :=
  if x.field = 2047 then
    if x.fraction = 0 then .infinite x.isNegative else .notANumber
  else if x.field = 0 then .finite x.isNegative x.fraction (-1074)
  else .finite x.isNegative (Nat.pow 2 52 + x.fraction) ((x.field : Int) - 1075)

def isZero (x : Binary64) : Bool :=
  match x.meaning with
  | .finite _ 0 _ => true
  | _ => false

/-! ## Digits -/

/-- A positive number written `0.d₁d₂… · 10 ^ point`. -/
structure Digits where
  digits : List Char
  point : Int

/-- The interval of numbers that round to a positive double, over one denominator. -/
structure Interval where
  low : Nat
  value : Nat
  high : Nat
  denominator : Nat
  closed : Bool

/-- Half a unit on either side, and a quarter below the least double of a binade. -/
def interval (significand : Nat) (exponent : Int) : Interval :=
  let up := Nat.pow 2 (exponent - 2).toNat
  let edge := decide (significand = Nat.pow 2 52) && decide (exponent > -1074)
  { low := (4 * significand - if edge then 1 else 2) * up
    value := 4 * significand * up
    high := (4 * significand + 2) * up
    denominator := Nat.pow 2 (2 - exponent).toNat
    closed := significand % 2 == 0 }

/-- The least power of ten above `num / den`, as an exponent. -/
def magnitude (num den : Nat) : Int :=
  if den ≤ num then (Text.natural (num / den)).length
  else
    let places := (Text.natural (den / num)).length
    if num * Nat.pow 10 (places - 1) = den then 2 - (places : Int) else 1 - (places : Int)

def Interval.holds (i : Interval) (digits : Nat) (scale : Int) : Bool :=
  let candidate := digits * Nat.pow 10 scale.toNat * i.denominator
  let unit := Nat.pow 10 (-scale).toNat
  if i.closed then decide (i.low * unit ≤ candidate) && decide (candidate ≤ i.high * unit)
  else decide (i.low * unit < candidate) && decide (candidate < i.high * unit)

/-- The better of the two numbers with `count` digits next to the value, if either rounds to it. -/
def nearestWith (i : Interval) (top : Int) (count : Nat) : Option (Nat × Int) :=
  let scale := top - count
  let num := i.value * Nat.pow 10 (-scale).toNat
  let den := i.denominator * Nat.pow 10 scale.toNat
  let below := num / den
  match i.holds below scale, i.holds (below + 1) scale with
  | true, true =>
    let twice := 2 * num
    let middle := (2 * below + 1) * den
    if twice < middle || (twice = middle && below % 2 = 0) then some (below, scale)
    else some (below + 1, scale)
  | true, false => some (below, scale)
  | false, true => some (below + 1, scale)
  | false, false => none

/-- Seventeen digits always suffice. -/
def shortest (significand : Nat) (exponent : Int) : Digits :=
  let i := interval significand exponent
  let top := magnitude i.value i.denominator
  match (List.range 17).findSome? fun k => nearestWith i top (k + 1) with
  | some (n, scale) =>
    let digits := Text.natural n
    let kept := (digits.reverse.dropWhile (· = '0')).reverse
    { digits := kept, point := scale + digits.length }
  | none => { digits := [], point := 0 }

/-! ## Text -/

/-- Positional notation serves the decimal exponents from -4 to 15. -/
def isPositional (d : Digits) : Bool :=
  decide (-4 < d.point) && decide (d.point ≤ 16)

def positional (d : Digits) : List Char :=
  if d.point ≤ 0 then '0' :: '.' :: List.replicate (-d.point).toNat '0' ++ d.digits
  else
    let whole := d.point.toNat
    if d.digits.length ≤ whole then
      d.digits ++ List.replicate (whole - d.digits.length) '0' ++ ['.', '0']
    else d.digits.take whole ++ '.' :: d.digits.drop whole

def scientific (d : Digits) : List Char :=
  let exponent := d.point - 1
  let mantissa :=
    match d.digits with
    | first :: second :: rest => first :: '.' :: second :: rest
    | few => few
  mantissa ++ 'e' :: (if exponent < 0 then '-' else '+') :: Text.padded 2 exponent.natAbs

def magnitudeText (significand : Nat) (exponent : Int) : List Char :=
  if significand = 0 then ['0', '.', '0']
  else
    let d := shortest significand exponent
    if isPositional d then positional d else scientific d

def signed (negative : Bool) (cs : List Char) : String :=
  String.ofList (if negative then '-' :: cs else cs)

def text (x : Binary64) : String :=
  match x.meaning with
  | .notANumber => "nan"
  | .infinite negative => signed negative ['i', 'n', 'f']
  | .finite negative significand exponent => signed negative (magnitudeText significand exponent)

def truncated (negative : Bool) (significand : Nat) (exponent : Int) : Int :=
  let whole := significand * Nat.pow 2 exponent.toNat / Nat.pow 2 (-exponent).toNat
  if negative then -whole else whole

end Binary64

end FluentSql
