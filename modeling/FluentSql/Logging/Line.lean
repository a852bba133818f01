import FluentSql.Calendar
import FluentSql.Value

/-!
# Lines of a log

A record is written as one entry: when, who, which level, what. On a terminal
the name of the level has the colour of the level. A record whose time has no
date is not written at all.
-/

set_option autoImplicit false

namespace FluentSql.Logging

structure Record where
  source : Value
  level : Value
  severity : Nat
  message : Value
  /-- Seconds since 1970. -/
  time : Value

def attributeCode (code : String) : String :=
  String.singleton (Char.ofNat 27) ++ "[" ++ code ++ "m"

def plainCode : String := "0"

def levelColors : List (String × String) :=
  [("DEBUG", "36"), ("INFO", "32"), ("WARNING", "33"), ("ERROR", "31"), ("CRITICAL", "35"),
   ("RESET", plainCode)]

def colored (level : String) : String :=
  match levelColors.lookup level with
  | some code => attributeCode code ++ level ++ attributeCode plainCode
  | none => level

namespace Record

/-- The whole seconds of a number of seconds, down to the one before. -/
def wholeSeconds? : Value → Option Int
  | .bool b => some (if b then 1 else 0)
  | .int n => some n
  | .float x =>
    match x.meaning with
    | .finite negative significand exponent =>
      let units := significand * Nat.pow 2 exponent.toNat
      let signed : Int := if negative then -units else units
      some (signed.fdiv (Nat.pow 2 (-exponent).toNat))
    | _ => none
  | _ => none

def hasYear (t : DateTime) : Bool :=
  decide (-2147481748 ≤ t.date.year) && decide (t.date.year ≤ 2147483647)

def moment? (r : Record) : Option DateTime :=
  ((wholeSeconds? r.time).map DateTime.ofUnix).filter hasYear

def line (colors : Bool) (r : Record) : String :=
  let level := r.level.plain
  match r.moment? with
  | some t =>
    t.literal ++ " - " ++ r.source.plain ++ " - " ++ (if colors then colored level else level)
      ++ " - " ++ r.message.plain ++ "\n"
  | none => ""

end Record

end FluentSql.Logging
