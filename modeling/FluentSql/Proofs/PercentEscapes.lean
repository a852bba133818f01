import FluentSql.Text.Percent
import FluentSql.Proofs.Utf8Decoding

/-!
# Escapes read back

A byte is escaped as itself, as a plus sign or as a percent sign and two
digits that name it, and each of the three is read as that byte again. So an
escaped text is read as the text, and holds none of the marks that an address
is divided by.
-/

set_option autoImplicit false

namespace FluentSql.Text.Percent

/-- Letters, digits, the four marks that stand for themselves, the plus and the percent sign. -/
def isEscaped (c : Char) : Bool :=
  isUnreserved c || c = '+' || c = '%'

def plusToSpace (c : Char) : Char :=
  if c = '+' then ' ' else c

def upperDigit (d : Nat) : Char :=
  (Nat.digitChar d).toUpper

theorem hexValue?_upperDigit : ∀ d < 16, hexValue? (upperDigit d) = some d := by decide

theorem isUnreserved_upperDigit : ∀ d < 16, isUnreserved (upperDigit d) = true := by decide

theorem ascii_of_isAlphanum {c : Char} (h : c.isAlphanum = true) : c.toNat ≤ 0x7f := by
  rcases Bool.or_eq_true_iff.mp h with letter | digit
  · rcases Bool.or_eq_true_iff.mp letter with upper | lower
    · have bound : c.toNat ≤ 'Z'.toNat := (of_decide_eq_true upper).2
      exact Nat.le_trans bound (by decide)
    · have bound : c.toNat ≤ 'z'.toNat := of_decide_eq_true (Bool.and_eq_true_iff.mp lower).2
      exact Nat.le_trans bound (by decide)
  · have bound : c.toNat ≤ '9'.toNat := of_decide_eq_true (Bool.and_eq_true_iff.mp digit).2
    exact Nat.le_trans bound (by decide)

theorem ascii_of_isUnreserved {c : Char} (h : isUnreserved c = true) : c.toNat ≤ 0x7f := by
  simp only [isUnreserved, Bool.or_eq_true, decide_eq_true_eq] at h
  rcases h with (((word | rfl) | rfl) | rfl) | rfl
  · exact ascii_of_isAlphanum word
  all_goals decide

theorem ne_of_isUnreserved {c d : Char} (h : isUnreserved c = true)
    (mark : isUnreserved d = false) : c ≠ d := by
  rintro rfl
  exact absurd h (by simp [mark])

theorem hexadecimal_two {n : Nat} (small : n < 256) :
    hexadecimal 2 n = [Nat.digitChar (n / 16), Nat.digitChar (n % 16)] := by
  have rest : n % 16 < 16 := Nat.mod_lt n (by decide)
  by_cases one : n < 16
  · rw [hexadecimal, Nat.toDigits_of_lt_base one, Nat.div_eq_of_lt one, Nat.mod_eq_of_lt one]
    rfl
  · have digits : Nat.toDigits 16 n = [Nat.digitChar (n / 16), Nat.digitChar (n % 16)] := by
      rw [Nat.toDigits_of_base_le (by decide) (by omega), Nat.toDigits_of_lt_base (by omega)]
      rfl
    rw [hexadecimal, digits]
    rfl

/-- What a byte is escaped as. -/
inductive Escapes (b : UInt8) : List Char → Prop
  | plain {c : Char} (unreserved : isUnreserved c = true) (same : String.utf8EncodeChar c = [b]) :
      Escapes b [c]
  | space (same : b = 0x20) : Escapes b ['+']
  | named {high low : Char} (digits : byte? high low = some b)
      (first : isUnreserved high = true) (second : isUnreserved low = true) :
      Escapes b ['%', high, low]

theorem byte?_upperDigit (b : UInt8) :
    byte? (upperDigit (b.toNat / 16)) (upperDigit (b.toNat % 16)) = some b := by
  have small : b.toNat < 256 := b.toNat_lt
  have whole : 16 * (b.toNat / 16) + b.toNat % 16 = b.toNat := by omega
  rw [byte?, hexValue?_upperDigit _ (by omega), hexValue?_upperDigit _ (by omega)]
  simp only [whole, UInt8.ofNat_toNat]

theorem toNat_ofNat_byte (b : UInt8) : (Char.ofNat b.toNat).toNat = b.toNat := by
  have valid : b.toNat.isValidChar := Or.inl (Nat.lt_trans b.toNat_lt (by decide))
  rw [Char.ofNat, dif_pos valid]
  rfl

theorem escapes_escapeByte (b : UInt8) : Escapes b (escapeByte b) := by
  have small : b.toNat < 256 := b.toNat_lt
  unfold escapeByte
  by_cases unreserved : isUnreserved (Char.ofNat b.toNat) = true
  · rw [if_pos unreserved]
    refine .plain unreserved ?_
    rw [Utf8.encodeChar_eq, if_pos (ascii_of_isUnreserved unreserved), toNat_ofNat_byte,
      UInt8.ofNat_toNat]
  rw [if_neg unreserved]
  by_cases space : Char.ofNat b.toNat = ' '
  · rw [if_pos space]
    refine .space (UInt8.toNat_inj.mp ?_)
    rw [← toNat_ofNat_byte, space]
    rfl
  · rw [if_neg space, hexadecimal_two small]
    exact .named (byte?_upperDigit b) (isUnreserved_upperDigit _ (by omega))
      (isUnreserved_upperDigit _ (by omega))

theorem unescapeBytes_other {c : Char} (h : c ≠ '%') (rest : List Char) :
    unescapeBytes (c :: rest) = String.utf8EncodeChar c ++ unescapeBytes rest := by
  rw [unescapeBytes]
  exact fun _ _ _ same => absurd same h

theorem plusToSpace_of_isUnreserved {c : Char} (h : isUnreserved c = true) :
    plusToSpace c = c :=
  if_neg (ne_of_isUnreserved h (by decide))

theorem Escapes.read {b : UInt8} {cs : List Char} (h : Escapes b cs) (rest : List Char) :
    unescapeBytes (cs.map plusToSpace ++ rest) = b :: unescapeBytes rest := by
  cases h with
  | plain unreserved same =>
    rw [List.map_singleton, plusToSpace_of_isUnreserved unreserved, List.singleton_append,
      unescapeBytes_other (ne_of_isUnreserved unreserved (by decide)), same, List.singleton_append]
  | space same =>
    subst same
    exact unescapeBytes_other (by decide) rest
  | named digits first second =>
    rw [List.map_cons, List.map_cons, List.map_singleton, plusToSpace_of_isUnreserved first,
      plusToSpace_of_isUnreserved second]
    show unescapeBytes ('%' :: _ :: _ :: rest) = _
    rw [unescapeBytes, digits]

theorem unescapeForm_escape (text : String) : unescapeForm (escape text) = text := by
  have read (bytes : List UInt8) :
      unescapeBytes ((escapeBytes bytes).map plusToSpace) = bytes := by
    induction bytes with
    | nil => rfl
    | cons b bytes ih =>
      rw [escapeBytes, List.flatMap_cons, List.map_append, (escapes_escapeByte b).read]
      exact congrArg (b :: ·) ih
  rw [unescapeForm, escape, String.toList_ofList]
  show Utf8.decode (unescapeBytes ((escapeBytes (Utf8.encode text)).map plusToSpace)) = text
  rw [read, Utf8.decode_encode]

theorem Escapes.isEscaped {b : UInt8} {cs : List Char} (h : Escapes b cs) :
    ∀ c ∈ cs, isEscaped c = true := by
  have whole {c : Char} (unreserved : isUnreserved c = true) : Percent.isEscaped c = true := by
    rw [Percent.isEscaped, unreserved, Bool.true_or, Bool.true_or]
  cases h with
  | plain unreserved => exact List.forall_mem_singleton.mpr (whole unreserved)
  | space => exact List.forall_mem_singleton.mpr rfl
  | named digits first second =>
    refine List.forall_mem_cons.mpr ⟨rfl, List.forall_mem_cons.mpr ⟨whole first, ?_⟩⟩
    exact List.forall_mem_singleton.mpr (whole second)

theorem isEscaped_escape (text : String) : ∀ c ∈ (escape text).toList, isEscaped c = true := by
  intro c hc
  rw [escape, String.toList_ofList] at hc
  obtain ⟨b, -, written⟩ := List.mem_flatMap.mp hc
  exact (escapes_escapeByte b).isEscaped c written

end FluentSql.Text.Percent
