import FluentSql.Number.Binary64
import FluentSql.Number.Decimal

/-!
# Numbers by their exact value

Integers, doubles and decimals have one form in common: a sign, a core that
neither two nor five divides, and the powers of both. Two of them have the
same form just when they are the same number, however they were written, and
no power is ever multiplied out.
-/

set_option autoImplicit false

namespace FluentSql

inductive Exact where
  | zero
  | finite (negative : Bool) (core : Nat) (twos fives : Int)
  | infinite (negative : Bool)
  deriving DecidableEq

namespace Exact

/-- A number without its factors `p`, and how many there were; `steps` bounds their number. -/
def withoutFactor (p : Nat) : (steps n : Nat) → Nat × Nat
  | 0, n => (n, 0)
  | steps + 1, n =>
    if n % p = 0 then
      let (core, count) := withoutFactor p steps (n / p)
      (core, count + 1)
    else (n, 0)

def ofFactors (negative : Bool) (n : Nat) (twos fives : Int) : Exact :=
  if n = 0 then zero
  else
    let (odd, two) := withoutFactor 2 n.log2 n
    let (core, five) := withoutFactor 5 odd.log2 odd
    finite negative core (twos + two) (fives + five)

def ofInt (n : Int) : Exact :=
  ofFactors (decide (n < 0)) n.natAbs 0 0

def ofBinary64? (x : Binary64) : Option Exact :=
  match x.meaning with
  | .notANumber => none
  | .infinite negative => some (infinite negative)
  | .finite negative significand exponent => some (ofFactors negative significand exponent 0)

def ofDecimal? : Decimal → Option Exact
  | .notANumber _ => none
  | .infinite negative => some (infinite negative)
  | .finite negative coefficient exponent =>
    some (ofFactors negative coefficient exponent exponent)

theorem withoutFactor_mul (p steps n : Nat) :
    (withoutFactor p steps n).1 * Nat.pow p (withoutFactor p steps n).2 = n := by
  induction steps generalizing n with
  | zero => simp [withoutFactor]
  | succ steps ih =>
    by_cases divides : n % p = 0
    · have whole : n / p * p = n := Nat.div_mul_cancel (Nat.dvd_of_mod_eq_zero divides)
      have power (k : Nat) : Nat.pow p (k + 1) = Nat.pow p k * p := rfl
      simp only [withoutFactor, if_pos divides]
      rw [power, ← Nat.mul_assoc, ih, whole]
    · simp [withoutFactor, if_neg divides]

end Exact

end FluentSql
