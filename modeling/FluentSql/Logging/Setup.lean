import FluentSql.Logging.Line
import FluentSql.Logging.Severity
import FluentSql.Text.Blank

/-!
# Setting up the log

The root takes reports at its level or above and hands them to its sinks, each
of which has a level too. Setting up replaces the level and the sinks. A level
that has no number leaves everything as it was; a path that cannot be made
leaves the root with its new level and without the file.
-/

set_option autoImplicit false

namespace FluentSql.Logging

inductive Destination where
  | console (colors : Bool)
  | file (path : String)
  | elsewhere
  deriving DecidableEq, Repr

structure Sink where
  destination : Destination
  level : Nat
  deriving DecidableEq, Repr

structure Root where
  level : Nat
  sinks : List Sink

structure Setup where
  level : Value := .null
  file : Value := .null
  directory : Value := .null
  console : Value := .bool true
  colors : Value := .bool true

/-- A part of a path: an empty one and a single dot add nothing, two dots go back. -/
def extendPath (path : List (List Char)) (part : List Char) : List (List Char) :=
  if part = [] || part = ['.'] then path
  else if part = ['.', '.'] then path.dropLast
  else path ++ [part]

def joinedPath (directory file : String) : String :=
  let parts := directory.toList.splitOn '/' ++ file.toList.splitOn '/'
  String.ofList (['/'].intercalate (parts.foldl extendPath []))

namespace Setup

def path? (s : Setup) : Except Fault (Option String) :=
  if s.file.truthy then do
    let directory ← if s.directory.truthy then s.directory.systemText else .ok "logs"
    let file ← s.file.systemText
    .ok (some (joinedPath directory file))
  else .ok none

def consoleSinks (s : Setup) (level : Nat) : List Sink :=
  if s.console.truthy then [⟨.console s.colors.truthy, level⟩] else []

/-- The level is the setup's own, or else the configured one. -/
def apply (s : Setup) (configured : Value) (before : Root) : Except Fault Unit × Root :=
  match severity (if s.level.truthy then s.level else configured) with
  | .error f => (.error f, before)
  | .ok level =>
    let sinks := s.consoleSinks level
    match s.path? with
    | .error f => (.error f, ⟨level, sinks⟩)
    | .ok path => (.ok (), ⟨level, sinks ++ path.toList.map fun p => ⟨.file p, level⟩⟩)

end Setup

namespace Root

/-- A plain console is set up where there is no sink yet. -/
def ensured (r : Root) (configured : Value) : Except Fault Unit × Root :=
  if r.sinks.isEmpty then Setup.apply { colors := .bool false } configured r else (.ok (), r)

def written (r : Root) (sink : Sink) (records : List Record) : String :=
  let colors := decide (sink.destination = .console true)
  String.join ((records.filter fun record =>
    r.level ≤ record.severity && sink.level ≤ record.severity).map (Record.line colors))

def consoleText (r : Root) (records : List Record) : String :=
  String.join (records.flatMap fun record =>
    r.sinks.filterMap fun sink =>
      match sink.destination with
      | .console _ => some (r.written sink [record])
      | _ => none)

def files (r : Root) (records : List Record) : List (String × String) :=
  r.sinks.filterMap fun sink =>
    match sink.destination with
    | .file path => some (path, r.written sink records)
    | _ => none

end Root

/-! ## Other loggers -/

def asked (level : Nat) (given : Value) : Except Fault Nat :=
  if given.truthy then severity given else .ok level

/-- The levels of a logger as it is asked for with each of some levels, and the last that it has;
a level that is refused ends the asking. -/
def levelsFrom (level : Nat) : List Value → Except Fault (List Nat) × Nat
  | [] => (.ok [], level)
  | given :: rest =>
    match asked level given with
    | .error f => (.error f, level)
    | .ok level =>
      let (r, last) := levelsFrom level rest
      (r.map (level :: ·), last)

def namesRoot : Value → Bool
  | .text name => name.isEmpty || name = "root"
  | v => !v.truthy

/-- The levels of a logger of some name, and the root after it: the root itself may be asked for.
A new logger has no level; only text names one. -/
def askLevels (r : Root) (name : Value) (given : List Value) : Except Fault (List Nat) × Root :=
  if namesRoot name then
    let (result, level) := levelsFrom r.level given
    (result, { r with level := level })
  else
    match name, given with
    | .text _, _ | _, [] => ((levelsFrom 0 given).1, r)
    | _, _ => (.error .wrongType, r)

end FluentSql.Logging
