import FluentSql.Query.Call

/-!
# What executing does to a query

An executing call sets the kind of the query. A call for the first row also
sets its limit, and a call that writes sets the assignments, if its argument
can be read as such. Nothing else of the query changes, whatever the engine
answers and whether there is an engine or not: in particular a count puts the
columns back. So a run of such calls leaves the conditions of the query as
they were.
-/

set_option autoImplicit false

namespace FluentSql

namespace Query

namespace Call

def kind? : Call → Option StatementKind
  | get | first | count _ => some .select
  | insert _ | insertGetId _ => some .insert
  | update _ => some .update
  | delete => some .delete
  | _ => none

def isFirst : Call → Bool
  | first => true
  | _ => false

def written? : Call → Option (List (Value × Value))
  | insert values | insertGetId values | update values => values.toAssignments.toOption
  | _ => none

end Call

/-- A query after an executing call, whatever came of it. -/
def executed (q : Query) (call : Call) : Query :=
  { q with
    kind := call.kind?.getD q.kind
    page := { q.page with limit := if call.isFirst then some (.int 1) else q.page.limit }
    assignments := call.written?.getD q.assignments }

theorem executed_all (q : Query) (calls : List Call) :
    calls.foldl executed q =
      { q with
        kind := (calls.filterMap Call.kind?).getLast?.getD q.kind
        page := { q.page with
          limit := if calls.any Call.isFirst then some (.int 1) else q.page.limit }
        assignments := (calls.filterMap Call.written?).getLast?.getD q.assignments } := by
  induction calls generalizing q with
  | nil => rfl
  | cons call rest ih =>
    rw [List.foldl_cons, ih]
    have last {α : Type} (f : Call → Option α) (x : α) :
        (rest.filterMap f).getLast?.getD ((f call).getD x) =
          ((call :: rest).filterMap f).getLast?.getD x := by
      cases read : f call <;> simp [read, List.getLast?_cons]
    rw [← last, ← last, List.any_cons]
    cases first : call.isFirst <;> simp [executed, first]

end Query

theorem andThen_keeps {α β σ : Type} (r : Except Fault α × σ) (f : α → Except Fault β) :
    (andThen r fun x s => (f x, s)).2 = r.2 := by
  obtain ⟨_ | _, _⟩ := r <;> rfl

namespace Workspace

/-! ## Statements -/

theorem compile_builder (w : Workspace) : w.compile.2.builder = w.builder := by
  unfold compile withCurrent
  split
  · dsimp only
    split <;> rfl
  · rfl

theorem execute_builder (w : Workspace) : w.execute.2.builder = w.builder := by
  have compiled := w.compile_builder
  unfold execute andThen
  split
  · next run => rwa [run] at compiled
  · next run => rwa [run] at compiled

theorem inlined_builder (w : Workspace) : w.inlined.2.builder = w.builder := by
  unfold inlined andThen
  have compiled := w.compile_builder
  split
  · next run => rwa [run] at compiled
  · next run => rwa [run] at compiled

/-! ## Calls -/

variable {w : Workspace} {q : Query}

theorem withCurrent_eq {α : Type} {next : Query → Except Fault α × Workspace}
    (chosen : w.builder.query = some q) : w.withCurrent next = next q := by
  rw [withCurrent, chosen]

theorem get_query (chosen : w.builder.query = some q) :
    w.get.2.builder.query = some { q with kind := .select } := by
  rw [get, withCurrent_eq chosen, andThen_keeps, execute_builder]
  rfl

theorem first_query (chosen : w.builder.query = some q) :
    w.first.2.builder.query =
      some { q with kind := .select, page := { q.page with limit := some (.int 1) } } := by
  rw [first, withCurrent_eq chosen, andThen_keeps]
  let page := { q.page with limit := some (.int 1) }
  exact get_query (w := w.setQuery { q with page := page }) rfl

theorem count_query (chosen : w.builder.query = some q) (column : String) :
    (w.count column).2.builder.query = some { q with kind := .select } := by
  rw [count, withCurrent_eq chosen]
  let aggregate := [Value.text ("COUNT(" ++ column ++ ") AS aggregate")]
  have counted := get_query (w := w.setQuery { q with columns := aggregate }) rfl
  dsimp only
  rw [restoreColumns, counted]
  rfl

theorem write_query (chosen : w.builder.query = some q) (kind : StatementKind) (values : Value) :
    (w.write kind values).2.builder.query =
      some { q with
        kind := kind, assignments := values.toAssignments.toOption.getD q.assignments } := by
  rw [write, withCurrent_eq chosen]
  dsimp only
  cases values.toAssignments with
  | error fault => rfl
  | ok assignments =>
    rw [execute_builder]
    rfl

theorem delete_query (chosen : w.builder.query = some q) :
    w.delete.2.builder.query = some { q with kind := .delete } := by
  rw [delete, withCurrent_eq chosen, execute_builder]
  rfl

theorem perform_executing (chosen : w.builder.query = some q) {call : Query.Call}
    (executing : call.kind?.isSome) :
    (w.perform call).2.builder.query = some (q.executed call) := by
  cases call with
  | get => exact get_query chosen
  | first => exact first_query chosen
  | count column => exact count_query chosen _
  | insert values => exact write_query chosen _ _
  | insertGetId values => exact write_query chosen _ _
  | update values => exact write_query chosen _ _
  | delete => exact delete_query chosen
  | _ => cases executing

theorem perform_executing_none (none : w.builder.query = none) {call : Query.Call}
    (executing : call.kind?.isSome) : (w.perform call).2 = w := by
  have refused {α : Type} (next : Query → Except Fault α × Workspace) :
      w.withCurrent next = (.error (.query .noTable), w) := by
    rw [withCurrent, none]
  cases call with
  | get | first | count _ | insert _ | insertGetId _ | update _ | delete =>
    simp only [perform, answered, get, first, count, write, delete, refused]
  | _ => cases executing

/-! ## Runs -/

def afterAll (w : Workspace) (calls : List Query.Call) : Workspace :=
  calls.foldl (fun w call => (w.perform call).2) w

theorem afterAll_executing (chosen : w.builder.query = some q) {calls : List Query.Call}
    (executing : ∀ call ∈ calls, call.kind?.isSome) :
    (w.afterAll calls).builder.query = some (calls.foldl Query.executed q) := by
  induction calls generalizing w q with
  | nil => exact chosen
  | cons call rest ih =>
    rw [List.forall_mem_cons] at executing
    exact ih (perform_executing chosen executing.1) executing.2

/-- Executing leaves the table, the columns, the clauses and the offset alone. The limit is one
after a call for the first row, and what is written is what the last call gave that could be
read. -/
theorem executing_keeps_clauses (chosen : w.builder.query = some q) {calls : List Query.Call}
    (executing : ∀ call ∈ calls, call.kind?.isSome) :
    ∃ after, (w.afterAll calls).builder.query = some after ∧
      after.table = q.table ∧ after.columns = q.columns ∧ after.wheres = q.wheres ∧
      after.joins = q.joins ∧ after.orders = q.orders ∧ after.page.offset = q.page.offset ∧
      after.page.limit = (if calls.any Query.Call.isFirst then some (.int 1) else q.page.limit) ∧
      after.assignments =
        (calls.filterMap Query.Call.written?).getLast?.getD q.assignments := by
  refine ⟨_, afterAll_executing chosen executing, ?_⟩
  rw [Query.executed_all]
  exact ⟨rfl, rfl, rfl, rfl, rfl, rfl, rfl, rfl⟩

def openTickets : Query where
  table := .text "tickets"
  columns := [.text "id", .text "title"]
  wheres := [.leaf .and (.compare "state" "=" (.text "open"))]
  orders := [⟨"id", .descending⟩]
  page := { limit := some (.int 20), offset := some (.int 40) }

def tickets : Workspace where
  builder := { dialect := .mysql, query := some openTickets }
  session := {
    connection := some {
      url := "fake://db", bound := false, dialect := .mysql
      outcomes := [.rejected "gone away", .broken "no memory"] } }

/-- The number of the last call but one cannot be read as assignments. -/
def ticketCalls : List Query.Call :=
  [.count none, .get, .update (.map [("state", .text "closed")]), .insert (.int 5), .delete]

theorem tickets_keep_clauses :
    tickets.builder.query = some openTickets ∧ (∀ call ∈ ticketCalls, call.kind?.isSome) ∧
      ∃ after, (tickets.afterAll ticketCalls).builder.query = some after ∧
        after.table = .text "tickets" ∧ after.columns = [.text "id", .text "title"] ∧
        after.wheres = openTickets.wheres ∧ after.joins = [] ∧
        after.orders = [⟨"id", .descending⟩] ∧ after.page.offset = some (.int 40) ∧
        after.page.limit = some (.int 20) ∧
        after.assignments = [(.text "state", .text "closed")] := by
  have executing : ∀ call ∈ ticketCalls, call.kind?.isSome := by decide
  obtain ⟨after, reached, kept⟩ :=
    executing_keeps_clauses (w := tickets) (q := openTickets) rfl executing
  exact ⟨rfl, executing, after, reached, kept⟩

end Workspace

end FluentSql
