import FluentSql.Text.Utf8
import Mathlib.Algebra.Group.Nat.Defs

/-!
# Decoding what was encoded

The bytes of one character are a lead byte and the continuation bytes that it
owes. A reader between characters takes them and stands between characters
again, so the bytes of a text are read as that text.
-/

set_option autoImplicit false

namespace FluentSql.Text.Utf8

/-- The last `n` bytes of the character with code `v`, six bits in each. -/
def continuation (v : Nat) : Nat → List UInt8
  | 0 => []
  | n + 1 => UInt8.ofNat (v / 64 ^ n % 64 + 0x80) :: continuation v n

/-- All has been read of the character with code `v` but its last `n + 1` bytes, and the next of
them is within the bounds. -/
structure Awaits (part : Unfinished) (v n : Nat) : Prop where
  owed : part.owed = n + 1
  code : part.code = v / 64 ^ (n + 1)
  least : part.least ≤ v / 64 ^ n % 64 + 0x80
  greatest : v / 64 ^ n % 64 + 0x80 ≤ part.greatest

theorem toNat_byte {m : Nat} (small : m < 256) : (UInt8.ofNat m).toNat = m := by
  rw [UInt8.toNat_ofNat', Nat.mod_eq_of_lt small]

theorem Awaits.later (v n : Nat) : Awaits { code := v / 64 ^ (n + 1), owed := n + 1 } v n where
  owed := rfl
  code := rfl
  least := Nat.le_add_left _ _
  greatest := by
    have : v / 64 ^ n % 64 < 64 := Nat.mod_lt _ (by decide)
    show v / 64 ^ n % 64 + 0x80 ≤ 0xbf
    omega

theorem decodeFrom_step {part : Unfinished} {v n : Nat} (awaits : Awaits part v n)
    (rest : List UInt8) :
    decodeFrom (some part) (UInt8.ofNat (v / 64 ^ n % 64 + 0x80) :: rest) =
      if n = 0 then Char.ofNat v :: decodeFrom none rest
      else decodeFrom (some { code := v / 64 ^ n, owed := n }) rest := by
  have six : v / 64 ^ n % 64 < 64 := Nat.mod_lt _ (by decide)
  have inside : (decide (part.least ≤ v / 64 ^ n % 64 + 0x80) &&
      decide (v / 64 ^ n % 64 + 0x80 ≤ part.greatest)) = true := by
    rw [decide_eq_true awaits.least, decide_eq_true awaits.greatest]
    rfl
  have code : part.code * 64 + v / 64 ^ n % 64 = v / 64 ^ n := by
    rw [awaits.code, Nat.pow_succ, ← Nat.div_div_eq_div_mul]
    omega
  rw [decodeFrom]
  simp only [toNat_byte (show v / 64 ^ n % 64 + 0x80 < 256 by omega), inside, if_true,
    awaits.owed, Nat.add_sub_cancel, code]
  cases n with
  | zero => rw [if_pos (by decide), if_pos rfl, Nat.pow_zero, Nat.div_one]
  | succ n => rw [if_neg (by omega), if_neg (by omega)]

theorem decodeFrom_continuation {part : Unfinished} {v n : Nat} (awaits : Awaits part v n)
    (rest : List UInt8) :
    decodeFrom (some part) (continuation v (n + 1) ++ rest) =
      Char.ofNat v :: decodeFrom none rest := by
  induction n generalizing part with
  | zero =>
    rw [continuation, List.cons_append, decodeFrom_step awaits, if_pos rfl]
    rfl
  | succ n ih =>
    rw [continuation, List.cons_append, decodeFrom_step awaits, if_neg (by omega)]
    exact ih (Awaits.later v n)

theorem decodeFrom_single {c : Char} (ascii : c.toNat ≤ 0x7f) (rest : List UInt8) :
    decodeFrom none (UInt8.ofNat c.toNat :: rest) = c :: decodeFrom none rest := by
  have starts : lead c.toNat = .char c := by
    rw [lead, if_pos (by omega), Char.ofNat_toNat]
  rw [decodeFrom]
  simp only [toNat_byte (show c.toNat < 256 by omega), starts, List.nil_append]

theorem decodeFrom_lead {b : UInt8} {part : Unfinished} (h : lead b.toNat = .unfinished part)
    (rest : List UInt8) : decodeFrom none (b :: rest) = decodeFrom (some part) rest := by
  rw [decodeFrom]
  simp only [h, List.nil_append]

theorem decodeFrom_lead_continuation {m v n : Nat} (small : m < 256) {part : Unfinished}
    (h : lead m = .unfinished part) (awaits : Awaits part v n) (rest : List UInt8) :
    decodeFrom none (UInt8.ofNat m :: continuation v (n + 1) ++ rest) =
      Char.ofNat v :: decodeFrom none rest := by
  rw [List.cons_append, decodeFrom_lead (by rw [toNat_byte small, h]),
    decodeFrom_continuation awaits]

theorem lead_two {v : Nat} (low : 0x7f < v) (high : v ≤ 0x7ff) :
    ∃ part, lead (v / 64 % 32 + 0xc0) = .unfinished part ∧ Awaits part v 0 := by
  refine ⟨{ code := v / 64, owed := 1 }, ?_, Awaits.later v 0⟩
  have : v / 64 % 32 = v / 64 := Nat.mod_eq_of_lt (by omega)
  rw [lead, if_neg (by omega), if_neg (by omega), if_pos (by omega), this, Nat.add_sub_cancel]

/-- The second of three bytes keeps clear of the shorter forms and of the surrogates. -/
theorem lead_three {v : Nat} (low : 0x7ff < v) (high : v ≤ 0xffff)
    (scalar : v < 0xd800 ∨ 0xdfff < v) :
    ∃ part, lead (v / 4096 % 16 + 0xe0) = .unfinished part ∧ Awaits part v 1 := by
  have top : v / 4096 % 16 = v / 4096 := Nat.mod_eq_of_lt (by omega)
  have six : v / 64 ^ 1 % 64 < 64 := Nat.mod_lt _ (by decide)
  rw [lead, if_neg (by omega), if_neg (by omega), if_neg (by omega), top]
  by_cases short : v / 4096 + 0xe0 = 0xe0
  · refine ⟨_, if_pos short, rfl, ?_, ?_, ?_⟩
    · show 0 = v / 64 ^ 2
      omega
    · show 0xa0 ≤ v / 64 ^ 1 % 64 + 0x80
      omega
    · show v / 64 ^ 1 % 64 + 0x80 ≤ 0xbf
      omega
  rw [if_neg short]
  by_cases before : v / 4096 + 0xe0 = 0xed
  · refine ⟨_, if_pos before, rfl, ?_, ?_, ?_⟩
    · show v / 4096 + 0xe0 - 0xe0 = v / 64 ^ 2
      omega
    · show 0x80 ≤ v / 64 ^ 1 % 64 + 0x80
      omega
    · show v / 64 ^ 1 % 64 + 0x80 ≤ 0x9f
      omega
  rw [if_neg before, if_pos (by omega), Nat.add_sub_cancel]
  exact ⟨_, rfl, Awaits.later v 1⟩

theorem lead_four {v : Nat} (low : 0xffff < v) (high : v < 0x110000) :
    ∃ part, lead (v / 262144 % 8 + 0xf0) = .unfinished part ∧ Awaits part v 2 := by
  have top : v / 262144 % 8 = v / 262144 := Nat.mod_eq_of_lt (by omega)
  have six : v / 64 ^ 2 % 64 < 64 := Nat.mod_lt _ (by decide)
  rw [lead, if_neg (by omega), if_neg (by omega), if_neg (by omega), if_neg (by omega),
    if_neg (by omega), if_neg (by omega), top]
  by_cases short : v / 262144 + 0xf0 = 0xf0
  · refine ⟨_, if_pos short, rfl, ?_, ?_, ?_⟩
    · show 0 = v / 64 ^ 3
      omega
    · show 0x90 ≤ v / 64 ^ 2 % 64 + 0x80
      omega
    · show v / 64 ^ 2 % 64 + 0x80 ≤ 0xbf
      omega
  rw [if_neg short]
  by_cases within : v / 262144 + 0xf0 < 0xf4
  · rw [if_pos within, Nat.add_sub_cancel]
    exact ⟨_, rfl, Awaits.later v 2⟩
  refine ⟨_, by rw [if_neg within, if_pos (by omega)], rfl, ?_, ?_, ?_⟩
  · show 4 = v / 64 ^ 3
    omega
  · show 0x80 ≤ v / 64 ^ 2 % 64 + 0x80
    omega
  · show v / 64 ^ 2 % 64 + 0x80 ≤ 0x8f
    omega

theorem encodeChar_eq (c : Char) : String.utf8EncodeChar c =
    if c.toNat ≤ 0x7f then [UInt8.ofNat c.toNat]
    else if c.toNat ≤ 0x7ff then
      UInt8.ofNat (c.toNat / 64 % 32 + 0xc0) :: continuation c.toNat 1
    else if c.toNat ≤ 0xffff then
      UInt8.ofNat (c.toNat / 4096 % 16 + 0xe0) :: continuation c.toNat 2
    else UInt8.ofNat (c.toNat / 262144 % 8 + 0xf0) :: continuation c.toNat 3 := by
  simp only [continuation, Nat.reducePow, Nat.pow_zero, Nat.div_one]
  rfl

theorem decodeFrom_encodeChar (c : Char) (rest : List UInt8) :
    decodeFrom none (String.utf8EncodeChar c ++ rest) = c :: decodeFrom none rest := by
  have scalar : c.toNat < 0xd800 ∨ 0xdfff < c.toNat ∧ c.toNat < 0x110000 := c.valid
  have through {m n : Nat} (small : m < 256)
      (owes : ∃ part, lead m = .unfinished part ∧ Awaits part c.toNat n) :
      decodeFrom none (UInt8.ofNat m :: continuation c.toNat (n + 1) ++ rest) =
        c :: decodeFrom none rest := by
    obtain ⟨part, starts, awaits⟩ := owes
    rw [decodeFrom_lead_continuation small starts awaits, Char.ofNat_toNat]
  rw [encodeChar_eq]
  by_cases one : c.toNat ≤ 0x7f
  · rw [if_pos one, List.cons_append, List.nil_append]
    exact decodeFrom_single one rest
  rw [if_neg one]
  by_cases two : c.toNat ≤ 0x7ff
  · rw [if_pos two]
    exact through (by omega) (lead_two (by omega) two)
  rw [if_neg two]
  by_cases three : c.toNat ≤ 0xffff
  · rw [if_pos three]
    exact through (by omega) (lead_three (by omega) three (by omega))
  · rw [if_neg three]
    exact through (by omega) (lead_four (by omega) (by omega))

theorem decode_encode (text : String) : decode (encode text) = text := by
  have read (cs : List Char) : decodeFrom none (cs.flatMap String.utf8EncodeChar) = cs := by
    induction cs with
    | nil => rfl
    | cons c cs ih => rw [List.flatMap_cons, decodeFrom_encodeChar, ih]
  rw [decode, encode, read, String.ofList_toList]

end FluentSql.Text.Utf8
