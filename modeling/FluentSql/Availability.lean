import FluentSql.Fault
import FluentSql.Journal

/-!
# Waiting for a database

A database is probed until it answers or the attempts are used up, with a
pause between two attempts. Only an answer that the database is down leads to
another attempt; any other failure ends the wait. The trace holds every
probe, pause and report in order.
-/

set_option autoImplicit false

namespace FluentSql.Availability

inductive Probe where
  | available
  | down (reason : String)
  | broken (reason : String)

/-- The answer to each probe, by its number. -/
abbrev Probes := Nat → Probe

def Probes.ofList (answers : List Probe) : Probes :=
  fun i => answers[i]?.getD (.down "refused")

inductive Event where
  | probed
  | slept (delay : Value)
  | reported (entry : Journal.Entry)

abbrev Trace := List Event

namespace Trace

def probeCount (t : Trace) : Nat :=
  (t.filter fun
    | .probed => true
    | _ => false).length

def sleeps (t : Trace) : List Value :=
  t.filterMap fun
    | .slept delay => some delay
    | _ => none

def journal (t : Trace) : List Journal.Entry :=
  t.filterMap fun
    | .reported entry => some entry
    | _ => none

theorem probeCount_append (t u : Trace) :
    probeCount (t ++ u) = probeCount t + probeCount u := by
  simp [probeCount]

theorem sleeps_append (t u : Trace) : sleeps (t ++ u) = sleeps t ++ sleeps u := by
  simp [sleeps]

theorem journal_append (t u : Trace) : journal (t ++ u) = journal t ++ journal u := by
  simp [journal]

end Trace

def report (level : Journal.Level) (message : String) : Event :=
  .reported ⟨.availability, level, message⟩

def check : Probe → Except Fault Bool × Trace
  | .available => (.ok true, [.probed])
  | .down reason => (.ok false, [.probed, report .debug ("Database not available: " ++ reason)])
  | .broken reason => (.error (.engine reason), [.probed])

structure Wait where
  target : String
  /-- How many attempts there are, as given; only a number that counts is one. -/
  attempts : Value := .int 10
  delay : Value := .int 2

namespace Wait

def progress (w : Wait) (attempt : Nat) : String :=
  "(attempt " ++ toString attempt ++ "/" ++ w.attempts.plain ++ ")"

def pause (w : Wait) (attempt : Nat) : Trace :=
  [report .warning ("Database not available yet " ++ w.progress attempt ++ ", retrying in "
      ++ w.delay.plain ++ "s..."),
    .slept w.delay]

def giveUp (w : Wait) : Except Fault Unit × Trace :=
  let fault := Fault.unavailable w.target w.attempts.plain
  (.error fault, [report .error fault.message])

def continueFrom (w : Wait) (probes : Probes) (made : Nat) : Nat → Except Fault Unit × Trace
  | 0 => w.giveUp
  | left + 1 =>
    match check (probes made) with
    | (.error fault, trace) => (.error fault, trace)
    | (.ok true, trace) =>
      (.ok (), trace ++ [report .info ("Database is available " ++ w.progress (made + 1))])
    | (.ok false, trace) =>
      let between := if left = 0 then [] else w.pause (made + 1)
      let (result, rest) := w.continueFrom probes (made + 1) left
      (result, trace ++ between ++ rest)

/-- Succeeds when the database answers; a number of attempts below one makes none. -/
def run (w : Wait) (probes : Probes) : Except Fault Unit × Trace :=
  let (result, rest) :=
    match w.attempts.count? with
    | some n => w.continueFrom probes 0 n.toNat
    | none => (.error .wrongType, [])
  (result, report .info ("Waiting for database at " ++ w.target ++ "...") :: rest)

end Wait

end FluentSql.Availability
