import FluentSql.Proofs.SelectReading
import FluentSql.Proofs.Sending

/-!
# Calls that read

The page stands at the end of a selecting statement, and no value of it is
bound. Reading leaves a selecting query as it was but for the limit, which is
one after a call for the first row; so the statement stays the same exactly if
there was no such call, or that was the limit already. A count compiles the
whole query with other columns, so its statement ends with the page as well, and
is the one without a page only if there is none.
-/

set_option autoImplicit false

namespace FluentSql

/-! ## The page of a statement -/

namespace Page

def ending (p : Page) : String :=
  String.ofList (Reading.spacedAfter p.clause)

theorem ending_chars (p : Page) :
    p.ending.toList =
      p.limit.toList.flatMap (boundText "LIMIT") ++
        p.offset.toList.flatMap (boundText "OFFSET") := by
  rw [ending, String.toList_ofList, clause_chars]

theorem ending_eq_empty (p : Page) : p.ending = "" ↔ p.limit = none ∧ p.offset = none := by
  rw [← String.toList_inj, ending_chars]
  cases p.limit <;> cases p.offset <;> simp [boundText]

theorem ending_limit (p : Page) (v : Value) :
    ({ p with limit := some v } : Page).ending = p.ending ↔
      p.limit.map Value.plain = some v.plain := by
  rw [← String.toList_inj, ending_chars, ending_chars, List.append_left_inj]
  cases p.limit with
  | none => simp [boundText]
  | some bound => simp [boundText, String.toList_inj, eq_comm]

theorem ending_limit_one (p : Page) (limited : Bool) :
    ({ p with limit := if limited then some (.int 1) else p.limit } : Page).ending = p.ending ↔
      (limited → p.limit.map Value.plain = some "1") := by
  cases limited with
  | false => simp
  | true =>
    have one : (Value.int 1).plain = "1" := by decide +kernel
    simpa only [if_true, forall_const, one] using p.ending_limit (.int 1)

end Page

namespace Query

variable {q : Query}

def onPage (q : Query) (page : Page) : Query :=
  { q with page := page }

theorem clauses_onPage (q : Query) (page : Page) (columns : String) :
    (Fragment.spaced ((q.onPage page).clauses columns)).sql =
      (Fragment.spaced ((q.onPage {}).clauses columns)).sql ++ page.ending := by
  have unpaged : (q.onPage {}).pageTail = [] := rfl
  have paged : (q.onPage page).pageTail = page.ending.toList := String.toList_ofList.symm
  apply String.toList_injective
  rw [String.toList_append, clauses_chars, clauses_chars]
  simp only [joinTail, whereTail, orderTail, unpaged, paged, List.append_nil, List.append_assoc]
  rfl

theorem prepared_onPage (selects : q.kind = .select) (page : Page) :
    (q.onPage page).prepared =
      (q.onPage {}).prepared.map fun prepared => (prepared.1 ++ page.ending, prepared.2) := by
  have selects' (page : Page) : (q.onPage page).kind = .select := selects
  have columns : (q.onPage page).columnText = (q.onPage {}).columnText := rfl
  rw [prepared_select (selects' page), prepared_select (selects' {}), columns]
  cases (q.onPage {}).columnText with
  | error fault => rfl
  | ok columns =>
    simp only [Except.map, clauses_onPage q page]
    rfl

theorem prepared_onPage_iff (selects : q.kind = .select) (page : Page) :
    (q.onPage page).prepared = q.prepared ↔
      page.ending = q.page.ending ∨ ∃ fault, q.columnText = .error fault := by
  have own : q.prepared = (q.onPage q.page).prepared := rfl
  have unpaged : (q.onPage {}).kind = .select := selects
  have columns : (q.onPage {}).columnText = q.columnText := rfl
  rw [own, prepared_onPage selects page, prepared_onPage selects q.page, prepared_select unpaged,
    columns]
  cases q.columnText with
  | error fault => simp [Except.map]
  | ok columns => simp [Except.map]

theorem prepared_count (q : Query) (column : Option String) :
    ∃ sql values, ((q.asked (.count column)).onPage {}).prepared = .ok (sql, values) := by
  rw [prepared_select rfl]
  exact ⟨_, _, rfl⟩

/-! ## Reading -/

theorem executed_reads (selects : q.kind = .select) {calls : List Call}
    (reads : ∀ call ∈ calls, call.kind? = some .select) :
    calls.foldl executed q =
      q.onPage { q.page with
        limit := if calls.any Call.isFirst then some (.int 1) else q.page.limit } := by
  have kind : (calls.filterMap Call.kind?).getLast?.getD q.kind = q.kind := by
    cases last : (calls.filterMap Call.kind?).getLast? with
    | none => rfl
    | some kind =>
      obtain ⟨call, member, same⟩ := List.mem_filterMap.mp (List.mem_of_getLast? last)
      rw [reads call member] at same
      rw [selects]
      exact (Option.some.inj same).symm
  have written : calls.filterMap Call.written? = [] := by
    rw [List.filterMap_eq_nil_iff]
    intro call member
    have read := reads call member
    cases call <;> first | rfl | cases read
  rw [executed_all, kind, written]
  rfl

end Query

theorem Session.carryOut_get {q : Query} (selects : q.kind = .select) (s : Session) :
    s.carryOut q .get = s.send q := by
  have asked : q.asked .get = q := by
    cases q
    cases selects
    rfl
  change s.send (q.asked .get) = s.send q
  rw [asked]

theorem Session.send_onPage {q : Query} (selects : q.kind = .select) {page : Page}
    (prepared : (q.onPage page).prepared = q.prepared) (s : Session) :
    s.send (q.onPage page) = s.send q := by
  have entry : (q.onPage page).entry = q.entry := by
    unfold Query.entry
    rw [show (q.onPage page).kind = q.kind from rfl, selects]
    rfl
  rw [send, send, reporting, reporting, entry, prepared]

namespace Workspace

variable {w : Workspace} {q : Query}

/-- Reading a selecting query leaves its bindings as they were. It leaves its text as it was, and
with it all that a later call for the rows sends, unless it asked for the first row; then it does
so only if the limit had the text of one, or the columns have no text at all. -/
theorem reads_keep_statement_iff (chosen : w.builder.query = some q) (selects : q.kind = .select)
    {calls : List Query.Call} (reads : ∀ call ∈ calls, call.kind? = some .select) :
    let after := w.afterAll calls
    (after.perform .bindings).1 = (w.perform .bindings).1 ∧
      ((after.perform .sql).1 = (w.perform .sql).1 ↔
        (calls.any Query.Call.isFirst → q.page.limit.map Value.plain = some "1" ∨
          ∃ fault, q.columnText = .error fault)) ∧
      ((after.perform .sql).1 = (w.perform .sql).1 → ∀ session : Session,
        let later := Workspace.perform { after with session := session } .get
        let sooner := Workspace.perform { w with session := session } .get
        later.1 = sooner.1 ∧ later.2.session = sooner.2.session) := by
  intro after
  let page := { q.page with
    limit := if calls.any Query.Call.isFirst then some (.int 1) else q.page.limit }
  have executing : ∀ call ∈ calls, call.kind?.isSome := fun call member => by
    rw [reads call member]
    rfl
  have chosen' : after.builder.query = some (q.onPage page) := by
    rw [afterAll_executing chosen executing, Query.executed_reads selects reads]
  have bindings : (q.onPage page).bindings = q.bindings := by
    unfold Query.bindings
    rfl
  have shown := shown_eq_iff chosen chosen'
  rw [bindings_eq chosen, bindings_eq chosen', bindings] at shown
  have same :
      (after.perform .sql).1 = (w.perform .sql).1 ↔ (q.onPage page).prepared = q.prepared := by
    simpa using shown
  refine ⟨by rw [bindings_eq chosen, bindings_eq chosen', bindings], ?_, fun kept session => ?_⟩
  · rw [same, Query.prepared_onPage_iff selects, Page.ending_limit_one]
    cases calls.any Query.Call.isFirst <;> simp
  · have sent := Session.send_onPage selects (same.mp kept) session
    have later := perform_executing_eq (w := { after with session := session }) chosen' .get rfl
    have sooner := perform_executing_eq (w := { w with session := session }) chosen .get rfl
    rw [Session.carryOut_get selects] at sooner
    rw [Session.carryOut_get (q := q.onPage page) selects, sent] at later
    rw [later, sooner]
    exact ⟨rfl, rfl⟩

theorem tickets_first_limits :
    let reads : List Query.Call := [.count none, .get]
    let read := tickets.afterAll reads
    let first := tickets.afterAll (reads ++ [.first])
    (∀ call ∈ reads ++ [.first], call.kind? = some .select) ∧
      (read.perform .sql).1 = (tickets.perform .sql).1 ∧
      (first.perform .sql).1 ≠ (tickets.perform .sql).1 ∧
      (first.perform .bindings).1 = (tickets.perform .bindings).1 := by
  intro reads read first
  have selecting : ∀ call ∈ reads ++ [.first], call.kind? = some .select := by decide
  have readOnly : ∀ call ∈ reads, call.kind? = some .select := by decide
  obtain ⟨-, kept, -⟩ :=
    reads_keep_statement_iff (w := tickets) (q := openTickets) rfl rfl readOnly
  obtain ⟨bindings, limited, -⟩ :=
    reads_keep_statement_iff (w := tickets) (q := openTickets) rfl rfl selecting
  refine ⟨selecting, kept.mpr (fun never => by cases never), fun same => ?_, bindings⟩
  rcases limited.mp same rfl with one | ⟨fault, refused⟩
  · exact absurd one (by decide +kernel)
  · cases refused

/-! ## Counting -/

/-- A count hands over one text and its values with the page at the end, whatever the page is, and
the answer is made of the rows for that. So it is independent of the page only if there is none. -/
theorem count_sends_page (w : Workspace) (q : Query) (column : Option String) :
    ∃ sql values, ∀ page : Page,
      let counted := (w.setQuery (q.onPage page)).perform (.count column)
      let reported := w.session.record .selecting .debug ("Compiled SELECT for " ++ q.tableText)
      let ran := reported.run (sql ++ page.ending) values
      (q.onPage page).handed (.count column) = .ok (sql ++ page.ending, values) ∧
        counted.1 = ran.1.bind (Query.Call.count column).answer ∧ counted.2.session = ran.2 ∧
        ((q.onPage page).handed (.count column) = (q.onPage {}).handed (.count column) ↔
          page.limit = none ∧ page.offset = none) := by
  obtain ⟨sql, values, unpaged⟩ := q.prepared_count column
  have handed (page : Page) :
      (q.onPage page).handed (.count column) = .ok (sql ++ page.ending, values) := by
    change ((q.asked (.count column)).onPage page).prepared = _
    rw [Query.prepared_onPage rfl, unpaged]
    rfl
  refine ⟨sql, values, fun page => ?_⟩
  intro counted reported ran
  have performed : counted = _ := w.perform_setQuery (q.onPage page) (.count column) rfl
  have carried : w.session.carryOut (q.onPage page) (.count column) = ran := by
    rw [Session.carryOut, handed]
    rfl
  rw [carried] at performed
  rw [performed, handed, handed, ← page.ending_eq_empty]
  refine ⟨rfl, rfl, rfl, ?_⟩
  have none : ({} : Page).ending = "" := rfl
  simp [none]

end Workspace

end FluentSql
