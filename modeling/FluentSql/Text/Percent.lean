import FluentSql.Text.Numeral
import FluentSql.Text.Utf8

/-!
# Percent escapes

Text is escaped byte by byte over its UTF-8 form. Letters, digits and four
marks stand for themselves, a space becomes a plus sign, and any other byte
becomes a percent sign and two hexadecimal digits. Decoding puts the bytes
back; a percent sign that no two digits follow stands for itself.
-/

set_option autoImplicit false

namespace FluentSql.Text.Percent

def isUnreserved (c : Char) : Bool :=
  c.isAlphanum || c = '_' || c = '.' || c = '-' || c = '~'

def escapeByte (b : UInt8) : List Char :=
  let c := Char.ofNat b.toNat
  if isUnreserved c then [c]
  else if c = ' ' then ['+']
  else '%' :: (hexadecimal 2 b.toNat).map Char.toUpper

def escapeBytes (bytes : List UInt8) : List Char :=
  bytes.flatMap escapeByte

def escape (text : String) : String :=
  String.ofList (escapeBytes (Utf8.encode text))

def hexValue? (c : Char) : Option Nat :=
  if c.isDigit then some (c.toNat - '0'.toNat)
  else if 'a' ≤ c && c ≤ 'f' then some (c.toNat - 'a'.toNat + 10)
  else if 'A' ≤ c && c ≤ 'F' then some (c.toNat - 'A'.toNat + 10)
  else none

def byte? (high low : Char) : Option UInt8 :=
  match hexValue? high, hexValue? low with
  | some h, some l => some (UInt8.ofNat (16 * h + l))
  | _, _ => none

def unescapeBytes : List Char → List UInt8
  | '%' :: high :: low :: rest =>
    match byte? high low with
    | some b => b :: unescapeBytes rest
    | none => String.utf8EncodeChar '%' ++ unescapeBytes (high :: low :: rest)
  | c :: rest => String.utf8EncodeChar c ++ unescapeBytes rest
  | [] => []

/-- Only percent escapes are read; a plus sign stays. -/
def unescape (text : String) : String :=
  Utf8.decode (unescapeBytes text.toList)

/-- A plus sign is a space again; the escapes are read after that, so an escaped one stays. -/
def unescapeForm (text : String) : String :=
  Utf8.decode (unescapeBytes (text.toList.map fun c => if c = '+' then ' ' else c))

theorem escapeBytes_append (xs ys : List UInt8) :
    escapeBytes (xs ++ ys) = escapeBytes xs ++ escapeBytes ys := by
  simp [escapeBytes]

end FluentSql.Text.Percent
