/-!
# Written numbers

Natural numbers and integers in decimal, and numbers padded with zeros to a
width in decimal or hexadecimal.
-/

set_option autoImplicit false

namespace FluentSql.Text

def natural (n : Nat) : List Char :=
  Nat.toDigits 10 n

def integer (n : Int) : List Char :=
  if n < 0 then '-' :: natural n.natAbs else natural n.natAbs

def padded (width n : Nat) : List Char :=
  (natural n).leftpad width '0'

def hexadecimal (width n : Nat) : List Char :=
  (Nat.toDigits 16 n).leftpad width '0'

theorem isDigit_natural {n : Nat} : ∀ c ∈ natural n, c.isDigit = true := fun _ =>
  Nat.isDigit_of_mem_toDigits (by decide) (by decide)

theorem natural_ne_nil (n : Nat) : natural n ≠ [] :=
  List.ne_nil_of_length_pos Nat.length_toDigits_pos

theorem mem_integer {n : Int} {c : Char} (h : c ∈ integer n) : c = '-' ∨ c.isDigit = true := by
  unfold integer at h
  split at h
  · exact (List.mem_cons.mp h).imp_right (isDigit_natural c)
  · exact .inr (isDigit_natural c h)

end FluentSql.Text
