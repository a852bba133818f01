import FluentSql.Proofs.Interleaving

/-!
# What executing calls send

An executing call compiles one query, has its statement run and makes an answer
of the reply. The query compiled is the one that the call leaves, but for a
count, which has columns of its own. A statement is sent to the engine if there
is a connection and as many values as placeholders; if it is not, the call is
refused.
-/

set_option autoImplicit false

namespace FluentSql

theorem andThen_eq {α β σ : Type} (r : Except Fault α × σ) (f : α → Except Fault β) :
    (andThen r fun x s => (f x, s)) = (r.1.bind f, r.2) := by
  obtain ⟨_ | _, _⟩ := r <;> rfl

theorem map_eq_bind {α β : Type} (r : Except Fault α) (f : α → β) :
    r.map f = r.bind fun x => .ok (f x) := by
  cases r <;> rfl

namespace Session

def reporting (s : Session) (q : Query) : Session :=
  s.record q.entry.source q.entry.level q.entry.message

def send (s : Session) (q : Query) : Except Fault Reply × Session :=
  match q.prepared with
  | .error fault => (.error fault, s)
  | .ok prepared => (s.reporting q).run prepared.1 prepared.2

def sent (s : Session) : List Executed :=
  (s.connection.map Connection.executed).getD []

end Session

namespace Query

namespace Call

/-- A call that writes reads its values first. -/
def reading : Call → Except Fault Unit
  | insert values | insertGetId values | update values => values.toAssignments.map fun _ => ()
  | _ => .ok ()

def counted? : Call → Option (List Value)
  | count column => some [.text ("COUNT(" ++ column.getD "*" ++ ") AS aggregate")]
  | _ => none

def answer : Call → Reply → Except Fault Answer
  | get, reply => .ok (Answer.ofRows reply.rows)
  | first, reply => .ok (.value ((reply.rows.head?.map Answer.ofRow).getD .null))
  | count _, reply => (Workspace.aggregate reply.rows).map fun n => .value (.int n)
  | insertGetId _, reply => .ok (.value reply.lastId)
  | _, reply => .ok (.value reply.affected)

end Call

/-- The query that an executing call compiles. -/
def asked (q : Query) (call : Call) : Query :=
  { q.executed call with columns := call.counted?.getD q.columns }

def handed (q : Query) (call : Call) : Except Fault (String × List Value) :=
  call.reading.bind fun _ => (q.asked call).prepared

end Query

namespace Session

def carryOut (s : Session) (q : Query) (call : Query.Call) : Except Fault Reply × Session :=
  match q.handed call with
  | .error fault => (.error fault, s)
  | .ok prepared => (s.reporting (q.asked call)).run prepared.1 prepared.2

/-! ## Statements sent -/

variable {s : Session} {q : Query} {call : Query.Call} {sql : String} {values : List Value}

theorem run_unsent (unfit : s.connection = none ∨ Scan.placeholderCount sql ≠ values.length) :
    ∃ fault, s.run sql values = (.error fault, s) := by
  unfold run
  split
  · exact ⟨_, rfl⟩
  · next c connected =>
    have unequal := unfit.resolve_left (by simp [connected])
    rw [Connection.prepare, if_pos unequal]
    exact ⟨_, rfl⟩

theorem sent_run {c : Connection} (connected : s.connection = some c)
    (fits : Scan.placeholderCount sql = values.length) :
    ∃ executed, (s.run sql values).2.sent = s.sent ++ [executed] := by
  have before : s.sent = c.executed := by rw [sent, connected]; rfl
  rw [before, run, connected]
  dsimp only
  rw [Connection.prepare, if_neg (not_not_intro fits)]
  dsimp only
  cases c.next <;> exact ⟨_, rfl⟩

theorem sent_run_iff :
    (s.run sql values).2.sent = s.sent ↔
      s.connection = none ∨ Scan.placeholderCount sql ≠ values.length := by
  constructor
  · intro unsent
    cases connected : s.connection with
    | none => exact .inl rfl
    | some c =>
      refine .inr fun fits => ?_
      obtain ⟨executed, more⟩ := sent_run connected fits
      simp [unsent] at more
  · intro unfit
    obtain ⟨fault, run⟩ := run_unsent unfit
    rw [run]

theorem sent_carryOut_iff :
    (s.carryOut q call).2.sent = s.sent ↔
      s.connection = none ∨ ∀ sql values, q.handed call = .ok (sql, values) →
        Scan.placeholderCount sql ≠ values.length := by
  unfold carryOut
  cases handed : q.handed call with
  | error fault => simp
  | ok prepared =>
    have reported : (s.reporting (q.asked call)).sent = s.sent := rfl
    have connection : (s.reporting (q.asked call)).connection = s.connection := rfl
    dsimp only
    rw [← reported, sent_run_iff, connection]
    obtain ⟨sql, values⟩ := prepared
    simp

theorem carryOut_unsent (unsent : (s.carryOut q call).2.sent = s.sent) :
    ∃ fault, (s.carryOut q call).1 = .error fault := by
  unfold carryOut at unsent ⊢
  cases handed : q.handed call with
  | error fault => exact ⟨fault, rfl⟩
  | ok prepared =>
    rw [handed] at unsent
    obtain ⟨fault, run⟩ := run_unsent (sent_run_iff.mp unsent)
    exact ⟨fault, congrArg Prod.fst run⟩

end Session

namespace Workspace

theorem setQuery_setQuery (w : Workspace) (q q' : Query) :
    (w.setQuery q).setQuery q' = w.setQuery q' :=
  rfl

theorem execute_setQuery (w : Workspace) (q : Query) :
    (w.setQuery q).execute =
      ((w.session.send q).1, ⟨w.builder.withQuery q, (w.session.send q).2⟩) := by
  rw [execute, compile, withCurrent_eq rfl, Session.send]
  cases q.prepared <;> rfl

theorem get_setQuery (w : Workspace) (q : Query) :
    let sent := w.session.send { q with kind := .select }
    (w.setQuery q).get =
      (sent.1.map Reply.rows, ⟨w.builder.withQuery { q with kind := .select }, sent.2⟩) := by
  intro sent
  rw [get, withCurrent_eq rfl, andThen_eq, setQuery_setQuery, execute_setQuery, map_eq_bind]

theorem write_setQuery (w : Workspace) (q : Query) (kind : StatementKind) (values : Value) :
    (w.setQuery q).write kind values =
      match values.toAssignments with
      | .error fault => (.error fault, w.setQuery { q with kind := kind })
      | .ok assignments =>
        let written := { q with kind := kind, assignments := assignments }
        ((w.session.send written).1,
          ⟨w.builder.withQuery written, (w.session.send written).2⟩) := by
  rw [write, withCurrent_eq rfl]
  dsimp only
  cases values.toAssignments with
  | error fault => rfl
  | ok assignments =>
    exact execute_setQuery w { q with kind := kind, assignments := assignments }

/-- All that an executing call does: what it answers, what it sends and what it leaves. -/
theorem perform_setQuery (w : Workspace) (q : Query) (call : Query.Call)
    (executing : call.kind?.isSome) :
    (w.setQuery q).perform call = ((w.session.carryOut q call).1.bind call.answer,
      ⟨w.builder.withQuery (q.executed call), (w.session.carryOut q call).2⟩) := by
  cases call with
  | get =>
    rw [perform, answered, get_setQuery, map_eq_bind]
    change _ = ((w.session.send { q with kind := .select }).1.bind _, _)
    cases (w.session.send { q with kind := .select }).1 <;> rfl
  | first =>
    let limited := { q with page := { q.page with limit := some (.int 1) } }
    rw [perform, answered, first, withCurrent_eq rfl, andThen_eq, setQuery_setQuery, get_setQuery]
    change _ = ((w.session.send { limited with kind := .select }).1.bind _, _)
    cases (w.session.send { limited with kind := .select }).1 <;> rfl
  | count column =>
    let counting := { q with columns := [.text ("COUNT(" ++ column.getD "*" ++ ") AS aggregate")] }
    rw [perform, answered, count, withCurrent_eq rfl]
    dsimp only
    rw [setQuery_setQuery, get_setQuery]
    change _ = ((w.session.send { counting with kind := .select }).1.bind _, _)
    cases (w.session.send { counting with kind := .select }).1 <;> rfl
  | insert values | insertGetId values | update values =>
    rw [perform, answered, write_setQuery, map_eq_bind, Session.carryOut, Query.handed]
    simp only [Query.asked, Query.executed, Query.Call.written?, Query.Call.reading]
    cases values.toAssignments <;> rfl
  | delete =>
    rw [perform, answered, delete, withCurrent_eq rfl, setQuery_setQuery, execute_setQuery,
      map_eq_bind]
    rfl
  | _ => cases executing

variable {w w' : Workspace} {q q' : Query}

theorem perform_executing_eq (chosen : w.builder.query = some q) (call : Query.Call)
    (executing : call.kind?.isSome) :
    w.perform call = ((w.session.carryOut q call).1.bind call.answer,
      ⟨w.builder.withQuery (q.executed call), (w.session.carryOut q call).2⟩) := by
  have performed := w.perform_setQuery q call executing
  rwa [setQuery_self chosen] at performed

theorem shown_eq_iff (chosen : w.builder.query = some q) (chosen' : w'.builder.query = some q') :
    (w'.perform .sql).1 = (w.perform .sql).1 ∧
        (w'.perform .bindings).1 = (w.perform .bindings).1 ↔
      q'.prepared = q.prepared ∧ q'.bindings = q.bindings := by
  rw [sql_eq chosen, sql_eq chosen', bindings_eq chosen, bindings_eq chosen']
  simp only [Except.ok.injEq, Answer.value.injEq, Value.list.injEq]
  refine and_congr_left fun bindings => ?_
  simp only [Query.prepared, bindings]
  cases q'.compile <;> cases q.compile <;> simp [Except.map]

end Workspace

end FluentSql
