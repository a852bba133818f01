import FluentSql.Connection.Session
import FluentSql.Proofs.BindText

/-!
# How far a script runs

The statements of a script are run without values, one after the other. A
statement fails if it holds a placeholder, and then the engine never sees it,
or if the engine fails at it, and then it is rolled back. The first one that
fails ends the run: those before it are committed, in their order, and none
after it is given to the engine.
-/

set_option autoImplicit false

namespace FluentSql

namespace Connection

def upcoming (c : Connection) (i : Nat) : Outcome :=
  (c.outcomes[i]?).getD (.answered {})

/-- What comes of a statement without values. The engine decides, if there is no placeholder. -/
def resultOf (sql : String) (outcome : Outcome) : Except Fault Reply :=
  if Scan.placeholderCount sql = 0 then
    match outcome with
    | .answered reply => .ok reply
    | .rejected reason => .error (.execution (.rejected reason))
    | .broken reason => .error (.engine reason)
  else .error (.execution (.bindingCount (Scan.placeholderCount sql) 0 sql))

def CarriesOut (c : Connection) (statements : List String) : Prop :=
  ∀ i sql, statements[i]? = some sql → ∃ reply, resultOf sql (c.upcoming i) = .ok reply

def unbound (sql : String) : Prepared :=
  ⟨String.ofList (rewritten sql.toList), []⟩

def ran (committed : Bool) (sql : String) : Executed :=
  ⟨(unbound sql).statement, (unbound sql).parameters, committed⟩

def afterEach (c : Connection) (statements : List String) : Connection :=
  statements.foldl (fun c sql => c.after (unbound sql)) c

/-! ## One statement -/

theorem next_eq_upcoming (c : Connection) : c.next = c.upcoming 0 := by
  rw [next, upcoming]
  cases c.outcomes <;> rfl

theorem upcoming_after (c : Connection) (p : Prepared) (i : Nat) :
    (c.after p).upcoming i = c.upcoming (i + 1) := by
  simp [upcoming, after]

theorem prepare_unbound {sql : String} (bare : Scan.placeholderCount sql = 0) :
    prepare sql [] = .ok (unbound sql) :=
  prepare_of_count bare

theorem executed_after (c : Connection) (sql : String) :
    (c.after (unbound sql)).executed = c.executed ++ [ran (committed (c.upcoming 0)) sql] := by
  rw [← next_eq_upcoming]
  rfl

theorem answered_of_carried {sql : String} {outcome : Outcome} {reply : Reply}
    (carried : resultOf sql outcome = .ok reply) :
    Scan.placeholderCount sql = 0 ∧ outcome = .answered reply := by
  unfold resultOf at carried
  by_cases bare : Scan.placeholderCount sql = 0
  · rw [if_pos bare] at carried
    cases outcome with
    | answered given => exact ⟨bare, congrArg _ (Except.ok.inj carried)⟩
    | rejected reason => cases carried
    | broken reason => cases carried
  · rw [if_neg bare] at carried
    cases carried

theorem rolledBack_of_failed {sql : String} {outcome : Outcome} {fault : Fault}
    (bare : Scan.placeholderCount sql = 0) (failed : resultOf sql outcome = .error fault) :
    committed outcome = false := by
  unfold resultOf at failed
  rw [if_pos bare] at failed
  cases outcome with
  | answered reply => cases failed
  | rejected reason => rfl
  | broken reason => rfl

/-! ## Statements carried out -/

variable {c : Connection} {sql : String} {statements : List String}

theorem carriesOut_cons :
    c.CarriesOut (sql :: statements) ↔
      (∃ reply, resultOf sql (c.upcoming 0) = .ok reply) ∧
        (c.after (unbound sql)).CarriesOut statements := by
  constructor
  · intro carried
    refine ⟨carried 0 sql rfl, fun i later found => ?_⟩
    rw [upcoming_after]
    exact carried (i + 1) later found
  · rintro ⟨first, others⟩ i later found
    cases i with
    | zero =>
      obtain rfl := Option.some.inj found
      exact first
    | succ i =>
      rw [← upcoming_after c (unbound sql)]
      exact others i later found

theorem carriesOut_or_fails (c : Connection) (statements : List String) :
    c.CarriesOut statements ∨
      ∃ before sql after fault, statements = before ++ sql :: after ∧ c.CarriesOut before ∧
        resultOf sql (c.upcoming before.length) = .error fault := by
  induction statements generalizing c with
  | nil => exact .inl fun i sql found => by simp at found
  | cons sql rest ih =>
    cases first : resultOf sql (c.upcoming 0) with
    | error fault =>
      exact .inr ⟨[], sql, rest, fault, rfl, fun i sql found => by simp at found, first⟩
    | ok reply =>
      rcases ih (c.after (unbound sql)) with
        all | ⟨before, failing, after, fault, rfl, earlier, failed⟩
      · exact .inl (carriesOut_cons.mpr ⟨⟨reply, first⟩, all⟩)
      · refine .inr ⟨sql :: before, failing, after, fault, rfl, ?_, ?_⟩
        · exact carriesOut_cons.mpr ⟨⟨reply, first⟩, earlier⟩
        · rwa [upcoming_after] at failed

theorem executed_afterEach (carried : c.CarriesOut statements) :
    (c.afterEach statements).executed = c.executed ++ statements.map (ran true) := by
  induction statements generalizing c with
  | nil => exact (List.append_nil _).symm
  | cons sql rest ih =>
    obtain ⟨⟨reply, first⟩, others⟩ := carriesOut_cons.mp carried
    have answered := (answered_of_carried first).2
    calc ((c.after (unbound sql)).afterEach rest).executed
      _ = (c.after (unbound sql)).executed ++ rest.map (ran true) := ih others
      _ = c.executed ++ [ran true sql] ++ rest.map (ran true) := by
        rw [executed_after, answered, committed]
      _ = c.executed ++ (sql :: rest).map (ran true) := by simp

theorem upcoming_afterEach (c : Connection) (statements : List String) (i : Nat) :
    (c.afterEach statements).upcoming i = c.upcoming (statements.length + i) := by
  induction statements generalizing c with
  | nil => simp [afterEach]
  | cons sql rest ih =>
    show ((c.after (unbound sql)).afterEach rest).upcoming i = _
    rw [ih, upcoming_after, List.length_cons, Nat.add_right_comm]

end Connection

namespace Session

open Connection

variable {s : Session} {c : Connection} {sql : String} {statements : List String}

/-! ## Running statements -/

theorem run_result (connected : s.connection = some c) :
    (s.run sql []).1 = resultOf sql (c.upcoming 0) := by
  rw [← next_eq_upcoming, run, connected]
  by_cases bare : Scan.placeholderCount sql = 0
  · simp only [prepare_unbound bare, resultOf, if_pos bare]
    cases c.next <;> rfl
  · simp [prepare, resultOf, bare]

theorem run_connection (connected : s.connection = some c) :
    (s.run sql []).2.connection =
      some (if Scan.placeholderCount sql = 0 then c.after (unbound sql) else c) := by
  rw [run, connected]
  by_cases bare : Scan.placeholderCount sql = 0
  · simp only [prepare_unbound bare, if_pos bare]
    cases c.next <;> rfl
  · simp [prepare, bare, connected]

theorem runAll_append (s : Session) (first others : List String) :
    s.runAll (first ++ others) = andThen (s.runAll first) fun _ s => s.runAll others := by
  induction first generalizing s with
  | nil => rfl
  | cons sql rest ih =>
    simp only [List.cons_append, runAll]
    rcases s.run sql [] with ⟨fault | reply, after⟩
    · rfl
    · exact ih after

theorem runAll_cons_failed {fault : Fault} (connected : s.connection = some c)
    (failed : resultOf sql (c.upcoming 0) = .error fault) :
    s.runAll (sql :: statements) = (.error fault, (s.run sql []).2) := by
  have result : (s.run sql []).1 = .error fault := (run_result connected).trans failed
  rw [runAll]
  rcases run : s.run sql [] with ⟨answer, after⟩
  rw [run] at result
  subst result
  rfl

theorem runAll_carried (connected : s.connection = some c) (carried : c.CarriesOut statements) :
    ∃ after, s.runAll statements = (.ok (), after) ∧
      after.connection = some (c.afterEach statements) := by
  induction statements generalizing s c with
  | nil => exact ⟨s, rfl, connected⟩
  | cons sql rest ih =>
    obtain ⟨⟨reply, first⟩, others⟩ := carriesOut_cons.mp carried
    have result : (s.run sql []).1 = .ok reply := (run_result connected).trans first
    have given : (s.run sql []).2.connection = _ := run_connection connected
    rw [if_pos (answered_of_carried first).1] at given
    rw [runAll]
    rcases run : s.run sql [] with ⟨answer, after⟩
    rw [run] at result given
    subst result
    exact ih given others

/-- After the statements that are carried out, one that fails is given to the engine or not, and
nothing more is. -/
theorem runAll_failed {before : List String} {fault : Fault} (connected : s.connection = some c)
    (carried : c.CarriesOut before)
    (failed : resultOf sql (c.upcoming before.length) = .error fault) (after : List String) :
    ∃ ended, s.runAll (before ++ sql :: after) = (.error fault, ended) ∧
      ended.connection.map executed = some (c.executed ++ before.map (ran true) ++
        if Scan.placeholderCount sql = 0 then [ran false sql] else []) := by
  obtain ⟨reached, run, connection⟩ := runAll_carried connected carried
  rw [show before.length = before.length + 0 from rfl, ← upcoming_afterEach] at failed
  rw [runAll_append, run]
  refine ⟨_, runAll_cons_failed connection failed, ?_⟩
  rw [run_connection connection, Option.map_some, ← executed_afterEach carried]
  by_cases bare : Scan.placeholderCount sql = 0
  · rw [if_pos bare, if_pos bare, executed_after, rolledBack_of_failed bare failed]
  · rw [if_neg bare, if_neg bare, List.append_nil]

/-! ## Running a script -/

/-- A script is run as a whole if none of its statements fails. Otherwise it is run up to the first
one that does: this one is rolled back, or has not been run at all if it holds a placeholder, and
its fault is that of the script. -/
theorem script_runs_to_first_failure (s : Session) (c : Connection) (script : String) :
    let statements := Scan.statements script
    let run := { s with connection := some c }.runScript script
    (∀ sql, Scan.placeholderCount sql = 0 → prepare sql [] = .ok (unbound sql)) ∧
    (c.CarriesOut statements ∧ run.1 = .ok statements.length ∧
        run.2.connection.map executed = some (c.executed ++ statements.map (ran true)) ∨
      ∃ before sql after fault, statements = before ++ sql :: after ∧ c.CarriesOut before ∧
        resultOf sql (c.upcoming before.length) = .error fault ∧ run.1 = .error fault ∧
        run.2.connection.map executed = some (c.executed ++ before.map (ran true) ++
          if Scan.placeholderCount sql = 0 then [ran false sql] else [])) := by
  intro statements run
  have connected : { s with connection := some c }.connection = some c := rfl
  refine ⟨fun sql => prepare_unbound, ?_⟩
  rcases c.carriesOut_or_fails statements with
    carried | ⟨before, sql, after, fault, split, carried, failed⟩
  · obtain ⟨ended, all, connection⟩ := runAll_carried connected carried
    refine .inl ⟨carried, ?_⟩
    show (runScript _ script).1 = _ ∧ (runScript _ script).2.connection.map executed = _
    rw [runScript, all, ← executed_afterEach carried]
    exact ⟨rfl, congrArg (Option.map executed) connection⟩
  · obtain ⟨ended, all, given⟩ := runAll_failed connected carried failed after
    refine .inr ⟨before, sql, after, fault, split, carried, failed, ?_⟩
    rw [← split] at all
    show (runScript _ script).1 = _ ∧ (runScript _ script).2.connection.map executed = _
    rw [runScript, all]
    exact ⟨rfl, given⟩

/-- The second of three statements is refused and rolled back, and the third one is not run. -/
example :
    let c : Connection :=
      { url := "", bound := true, dialect := .mysql,
        outcomes := [.answered {}, .rejected "no such table: b"] }
    let run := runScript ⟨some c, false, []⟩ "DROP TABLE a; DROP TABLE b; DROP TABLE c;"
    (run.2.connection.map fun c => c.executed.map Executed.committed) = some [true, false] := by
  decide +kernel

end Session

end FluentSql
