/-!
# Reading UTF-8

Bytes are read one at a time. A part that no character starts with gives one
replacement character, and reading goes on at the first byte that does not
belong to it.
-/

set_option autoImplicit false

namespace FluentSql.Text.Utf8

/-- A character whose first bytes have been read: its bits so far, the bytes still owed and the
bounds on the next of them. -/
structure Unfinished where
  code : Nat
  owed : Nat
  least : Nat := 0x80
  greatest : Nat := 0xbf

def replacement : Char := Char.ofNat 0xfffd

/-- What a byte begins when it stands between characters. -/
inductive Lead where
  | char (c : Char)
  | unfinished (part : Unfinished)
  | invalid

def lead (b : Nat) : Lead :=
  if b < 0x80 then .char (Char.ofNat b)
  else if b < 0xc2 then .invalid
  else if b < 0xe0 then .unfinished { code := b - 0xc0, owed := 1 }
  else if b = 0xe0 then .unfinished { code := 0, owed := 2, least := 0xa0 }
  else if b = 0xed then .unfinished { code := b - 0xe0, owed := 2, greatest := 0x9f }
  else if b < 0xf0 then .unfinished { code := b - 0xe0, owed := 2 }
  else if b = 0xf0 then .unfinished { code := 0, owed := 3, least := 0x90 }
  else if b < 0xf4 then .unfinished { code := b - 0xf0, owed := 3 }
  else if b = 0xf4 then .unfinished { code := 4, owed := 3, greatest := 0x8f }
  else .invalid

def decodeFrom : Option Unfinished → List UInt8 → List Char
  | none, [] => []
  | some _, [] => [replacement]
  | pending, b :: rest =>
    let fresh (before : List Char) :=
      match lead b.toNat with
      | .char c => before ++ c :: decodeFrom none rest
      | .unfinished part => before ++ decodeFrom (some part) rest
      | .invalid => before ++ replacement :: decodeFrom none rest
    match pending with
    | none => fresh []
    | some part =>
      if part.least ≤ b.toNat && b.toNat ≤ part.greatest then
        let code := part.code * 64 + (b.toNat - 0x80)
        if part.owed ≤ 1 then Char.ofNat code :: decodeFrom none rest
        else decodeFrom (some { code := code, owed := part.owed - 1 }) rest
      else fresh [replacement]

def decode (bytes : List UInt8) : String :=
  String.ofList (decodeFrom none bytes)

def encode (text : String) : List UInt8 :=
  text.toList.flatMap String.utf8EncodeChar

theorem decodeFrom_nil (pending : Option Unfinished) :
    decodeFrom pending [] = pending.elim [] fun _ => [replacement] := by
  cases pending <;> rfl

end FluentSql.Text.Utf8
