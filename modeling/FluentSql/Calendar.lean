import FluentSql.Text.Numeral

/-!
# Dates and times

Civil dates and times of day without a zone, their standard text, the form
in which messages show them, and the civil date of a count of seconds.
-/

set_option autoImplicit false

namespace FluentSql

structure Date where
  year : Int
  month : Nat
  day : Nat
  deriving DecidableEq

structure TimeOfDay where
  hour : Nat
  minute : Nat
  second : Nat
  microsecond : Nat
  deriving DecidableEq

structure DateTime where
  date : Date
  time : TimeOfDay
  deriving DecidableEq

namespace Date

def yearChars (width : Nat) (d : Date) : List Char :=
  (if d.year < 0 then ['-'] else []) ++ Text.padded width d.year.natAbs

def dashed (width : Nat) (d : Date) : List Char :=
  d.yearChars width ++ '-' :: Text.padded 2 d.month ++ '-' :: Text.padded 2 d.day

def iso (d : Date) : String := String.ofList (d.dashed 4)

end Date

namespace TimeOfDay

def clock (t : TimeOfDay) : List Char :=
  Text.padded 2 t.hour ++ ':' :: Text.padded 2 t.minute ++ ':' :: Text.padded 2 t.second

def isoChars (t : TimeOfDay) : List Char :=
  t.clock ++ if t.microsecond = 0 then [] else '.' :: Text.padded 6 t.microsecond

def iso (t : TimeOfDay) : String := String.ofList t.isoChars

def parts (t : TimeOfDay) : List Nat :=
  [t.hour, t.minute] ++
    if t.microsecond ≠ 0 then [t.second, t.microsecond]
    else if t.second ≠ 0 then [t.second]
    else []

end TimeOfDay

namespace DateTime

def iso (t : DateTime) : String :=
  String.ofList (t.date.dashed 4 ++ ' ' :: t.time.isoChars)

/-- The literal's text: whole seconds, and the year with no padding. -/
def literal (t : DateTime) : String :=
  String.ofList (t.date.dashed 1 ++ ' ' :: t.time.clock)

end DateTime

def callText (name : String) (parts : List Int) : String :=
  name ++ "(" ++ ", ".intercalate (parts.map fun n => String.ofList (Text.integer n)) ++ ")"

def Date.shown (d : Date) : String :=
  callText "datetime.date" [d.year, d.month, d.day]

def TimeOfDay.shown (t : TimeOfDay) : String :=
  callText "datetime.time" (t.parts.map Int.ofNat)

def DateTime.shown (t : DateTime) : String :=
  callText "datetime.datetime"
    ([t.date.year, t.date.month, t.date.day] ++ t.time.parts.map Int.ofNat)

/-! ## Seconds since 1970 -/

/-- The civil date of a day number, by eras of 400 years that begin in March. -/
def Date.ofDay (day : Int) : Date :=
  let shifted := day + 719468
  let era := shifted.fdiv 146097
  let dayOfEra := (shifted - era * 146097).toNat
  let yearOfEra := (dayOfEra - dayOfEra / 1460 + dayOfEra / 36524 - dayOfEra / 146096) / 365
  let dayOfYear := dayOfEra - (365 * yearOfEra + yearOfEra / 4 - yearOfEra / 100)
  let monthFromMarch := (5 * dayOfYear + 2) / 153
  let month := if monthFromMarch < 10 then monthFromMarch + 3 else monthFromMarch - 9
  let year := yearOfEra + era * 400 + if month ≤ 2 then 1 else 0
  { year := year, month := month, day := dayOfYear - (153 * monthFromMarch + 2) / 5 + 1 }

def DateTime.ofUnix (seconds : Int) : DateTime :=
  let day := seconds.fdiv 86400
  let rest := (seconds - day * 86400).toNat
  { date := Date.ofDay day
    time := {
      hour := rest / 3600, minute := rest / 60 % 60, second := rest % 60, microsecond := 0 } }

end FluentSql
