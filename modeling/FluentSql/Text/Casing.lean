import FluentSql.Text.CaseTable

/-!
# Upper and lower case

A text changes case character by character; a letter may become several. The
one rule that looks around is the capital sigma: at the end of a word its
lower case is the final form. Bytes change case as far as they are ASCII.
-/

set_option autoImplicit false

namespace FluentSql.Text

def upperChar (c : Char) : List Char :=
  match upperExpansions.lookup c.toNat with
  | some codes => codes.map Char.ofNat
  | none => [CaseRun.apply upperRuns c]

def upperChars (cs : List Char) : List Char :=
  cs.flatMap upperChar

def upper (text : String) : String :=
  String.ofList (upperChars text.toList)

def meetsCased (cs : List Char) : Bool :=
  match cs.find? (fun c => !caseIgnorableRanges.holds c) with
  | some c => casedRanges.holds c
  | none => false

/-- The lower case of one letter, given the text before it, backwards, and after it. -/
def lowerChar (before : List Char) (c : Char) (after : List Char) : List Char :=
  if c = 'Σ' then
    if meetsCased before && !meetsCased after then ['ς'] else ['σ']
  else if c = 'İ' then ['i', Char.ofNat 0x307]
  else [CaseRun.apply lowerRuns c]

def lowerFrom (before : List Char) : List Char → List Char
  | [] => []
  | c :: after => lowerChar before c after ++ lowerFrom (c :: before) after

def lowerChars (cs : List Char) : List Char :=
  lowerFrom [] cs

def lower (text : String) : String :=
  String.ofList (lowerChars text.toList)

def asciiCaseDistance : UInt8 := 0x20

def upperByte (b : UInt8) : UInt8 :=
  if 0x61 ≤ b && b ≤ 0x7a then b - asciiCaseDistance else b

def lowerByte (b : UInt8) : UInt8 :=
  if 0x41 ≤ b && b ≤ 0x5a then b + asciiCaseDistance else b

theorem upperChars_append (xs ys : List Char) :
    upperChars (xs ++ ys) = upperChars xs ++ upperChars ys := by
  simp [upperChars]

end FluentSql.Text
