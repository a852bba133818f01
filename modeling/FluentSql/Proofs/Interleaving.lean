import FluentSql.Proofs.ClauseCalls

/-!
# Interleaved clause calls

The calls on one part of a query do the same whatever calls on other parts come
between them: a run is followed, part by part, by the run of the calls on that
part alone. So runs whose calls on each part are the same come to the same
query, and get the same answers.
-/

set_option autoImplicit false

namespace FluentSql

namespace Query

/-- A clause call, under the part that it is about. A call that cannot be made may be about
any part. -/
structure ClauseCall where
  part : Part
  call : Call
  clausal : call.isClausal
  fits : call.part? = some part ∨ ∃ fault, call = .refused fault

namespace ClauseCall

theorem edits (c : ClauseCall) : c.call.Edits c.part := by
  rcases c.fits with fits | ⟨fault, refused⟩
  · apply Workspace.edits_of_part fits
    intro members connective same
    have clausal := c.clausal
    rw [same] at clausal
    exact Workspace.confined_performAll members clausal
  · rw [refused]
    exact Call.edits_refused fault c.part

def on (p : Part) (calls : List ClauseCall) : List ClauseCall :=
  calls.filter fun c => c.part = p

end ClauseCall

def Call.limit? : Call → Option Value
  | limit bound => some bound
  | _ => none

def Call.offset? : Call → Option Value
  | offset bound => some bound
  | _ => none

end Query

namespace Workspace

open Query (Part ClauseCall)

variable {w w' w'' : Workspace} {q q' : Query} {p : Part}

def run (w : Workspace) (calls : List ClauseCall) : Workspace :=
  w.afterAll (calls.map ClauseCall.call)

def answers (w : Workspace) : List ClauseCall → List (Part × Except Fault Answer)
  | [] => []
  | c :: rest => (c.part, (w.perform c.call).1) :: answers (w.perform c.call).2 rest

def answersOn (w : Workspace) (p : Part) (calls : List ClauseCall) :
    List (Except Fault Answer) :=
  ((w.answers calls).filter fun answer => answer.1 = p).map Prod.snd

/-! ## Workspaces alike in a part -/

def Alike (p : Part) (w w' : Workspace) : Prop :=
  ∃ q q', w.builder.query = some q ∧ w'.builder.query = some q' ∧
    q.table = q'.table ∧ q.part p = q'.part p

theorem Alike.trans (h : Alike p w w') (h' : Alike p w' w'') : Alike p w w'' := by
  obtain ⟨q, q', chosen, chosen', table, part⟩ := h
  obtain ⟨_, q'', again, chosen'', table', part'⟩ := h'
  obtain rfl := Option.some.inj (chosen'.symm.trans again)
  exact ⟨q, q'', chosen, chosen'', table.trans table', part.trans part'⟩

theorem Alike.symm (h : Alike p w w') : Alike p w' w := by
  obtain ⟨q, q', chosen, chosen', table, part⟩ := h
  exact ⟨q', q, chosen', chosen, table.symm, part.symm⟩

theorem perform_keeps (chosen : w.builder.query = some q) (c : ClauseCall) :
    ∃ after, (w.perform c.call).2.builder.query = some after ∧ after.table = q.table ∧
      after.kind = q.kind ∧ after.assignments = q.assignments ∧
      ∀ p, p ≠ c.part → after.part p = q.part p := by
  obtain ⟨outcome, performed⟩ := c.edits
  rw [performed w q chosen]
  cases outcome q.table with
  | error fault => exact ⟨q, chosen, rfl, rfl, rfl, fun _ _ => rfl⟩
  | ok edit =>
    exact ⟨_, rfl, q.putPart_table _, q.putPart_kind _, q.putPart_assignments _,
      fun p different => q.part_putPart_other _ different⟩

theorem sql_eq (chosen : w.builder.query = some q) :
    (w.perform .sql).1 = q.prepared.map fun prepared => .value (.text prepared.1) := by
  rw [perform, compile, withCurrent_eq chosen]
  cases q.prepared <;> rfl

theorem bindings_eq (chosen : w.builder.query = some q) :
    (w.perform .bindings).1 = .ok (.value (.list q.bindings)) := by
  rw [perform, Builder.current_eq chosen]
  rfl

theorem Alike.perform (h : Alike p w w') {c : ClauseCall} (about : c.part = p) :
    (w.perform c.call).1 = (w'.perform c.call).1 ∧
      Alike p (w.perform c.call).2 (w'.perform c.call).2 := by
  subst about
  obtain ⟨q, q', chosen, chosen', table, part⟩ := h
  obtain ⟨outcome, performed⟩ := c.edits
  rw [performed w q chosen, performed w' q' chosen', ← table]
  cases outcome q.table with
  | error fault => exact ⟨rfl, q, q', chosen, chosen', table, part⟩
  | ok edit =>
    refine ⟨rfl, _, _, rfl, rfl, ?_, ?_⟩
    · rw [Query.putPart_table, Query.putPart_table, table]
    · rw [Query.part_putPart, Query.part_putPart, part]

theorem Alike.pass (h : Alike p w w') {c : ClauseCall} (different : c.part ≠ p) :
    Alike p (w.perform c.call).2 w' := by
  obtain ⟨q, q', chosen, chosen', table, part⟩ := h
  obtain ⟨after, reached, same, -, -, others⟩ := perform_keeps chosen c
  exact ⟨after, q', reached, chosen', same.trans table, (others p different.symm).trans part⟩

theorem Alike.run (h : Alike p w w') (calls : List ClauseCall) :
    w.answersOn p calls = w'.answersOn p (ClauseCall.on p calls) ∧
      Alike p (w.run calls) (w'.run (ClauseCall.on p calls)) := by
  induction calls generalizing w w' with
  | nil => exact ⟨rfl, h⟩
  | cons c rest ih =>
    by_cases about : c.part = p
    · obtain ⟨answer, after⟩ := h.perform about
      obtain ⟨answers, reached⟩ := ih after
      rw [ClauseCall.on, List.filter_cons_of_pos (by simpa using about)]
      refine ⟨?_, reached⟩
      simp only [answersOn, Workspace.answers, about, decide_true, List.filter_cons_of_pos,
        List.map_cons, answer]
      exact congrArg _ answers
    · obtain ⟨answers, reached⟩ := ih (h.pass about)
      rw [ClauseCall.on, List.filter_cons_of_neg (by simpa using about)]
      refine ⟨?_, reached⟩
      rw [← ClauseCall.on, ← answers, answersOn, Workspace.answers,
        List.filter_cons_of_neg (by simpa using about)]
      rfl

theorem Alike.runs (h : Alike p w w') {calls calls' : List ClauseCall}
    (same : ClauseCall.on p calls = ClauseCall.on p calls') :
    w.answersOn p calls = w'.answersOn p calls' ∧ Alike p (w.run calls) (w'.run calls') := by
  obtain ⟨answers, reached⟩ := h.run calls
  obtain ⟨answers', reached'⟩ := (h.symm.trans h).run calls'
  rw [same] at answers reached
  exact ⟨answers.trans answers'.symm, reached.trans reached'.symm⟩

theorem run_keeps (chosen : w.builder.query = some q) (calls : List ClauseCall) :
    ∃ after, (w.run calls).builder.query = some after ∧ after.table = q.table ∧
      after.kind = q.kind ∧ after.assignments = q.assignments := by
  induction calls generalizing w q with
  | nil => exact ⟨q, chosen, rfl, rfl, rfl⟩
  | cons c rest ih =>
    obtain ⟨next, stepped, table, kind, assignments, -⟩ := perform_keeps chosen c
    obtain ⟨after, reached, table', kind', assignments'⟩ := ih stepped
    exact ⟨after, reached, table'.trans table, kind'.trans kind,
      assignments'.trans assignments⟩

/-! ## The page -/

/-- The calls about a part are those that give something, and each puts there what it gives. -/
structure Replaces (p : Part) (given : Query.Call → Option p.Content) : Prop where
  about : ∀ call, (given call).isSome → call.part? = some p
  put : ∀ call, call.part? = some p → ∃ x, given call = some x ∧
    ∀ (w : Workspace) (q : Query), w.builder.query = some q →
      (w.perform call).2.builder.query = some (q.putPart p x)

theorem replaces_limit : Replaces .limit fun call => call.limit?.map Page.bound := by
  constructor
  · intro call gives
    cases call <;> first | rfl | cases gives
  · intro call about
    cases call with
    | limit bound =>
      refine ⟨_, rfl, fun w q chosen => ?_⟩
      rw [perform, Builder.limit_eq chosen]
      rfl
    | _ => cases about

theorem replaces_offset : Replaces .offset fun call => call.offset?.map Page.bound := by
  constructor
  · intro call gives
    cases call <;> first | rfl | cases gives
  · intro call about
    cases call with
    | offset bound =>
      refine ⟨_, rfl, fun w q chosen => ?_⟩
      rw [perform, Builder.offset_eq chosen]
      rfl
    | _ => cases about

variable {given : Query.Call → Option p.Content}

theorem Replaces.perform (h : Replaces p given) (chosen : w.builder.query = some q)
    (c : ClauseCall) {after : Query}
    (reached : (w.perform c.call).2.builder.query = some after) :
    after.part p = (given c.call).getD (q.part p) := by
  by_cases about : c.call.part? = some p
  · obtain ⟨x, gives, put⟩ := h.put c.call about
    obtain rfl := Option.some.inj ((put w q chosen).symm.trans reached)
    rw [gives, Query.part_putPart]
    rfl
  · have silent : given c.call = none := by
      cases gives : given c.call with
      | none => rfl
      | some x => exact absurd (h.about c.call (by rw [gives]; rfl)) about
    rw [silent]
    rcases c.fits with fits | ⟨fault, refused⟩
    · obtain ⟨after', reached', -, -, -, others⟩ := perform_keeps chosen c
      obtain rfl := Option.some.inj (reached'.symm.trans reached)
      exact others p fun same => about (same ▸ fits)
    · rw [refused] at reached
      obtain rfl := Option.some.inj (chosen.symm.trans reached)
      rfl

theorem Replaces.run (h : Replaces p given) (chosen : w.builder.query = some q)
    (calls : List ClauseCall) {after : Query}
    (reached : (w.run calls).builder.query = some after) :
    after.part p = (calls.filterMap fun c => given c.call).getLast?.getD (q.part p) := by
  induction calls generalizing w q with
  | nil =>
    obtain rfl := Option.some.inj (chosen.symm.trans reached)
    rfl
  | cons c rest ih =>
    obtain ⟨next, stepped, -⟩ := perform_keeps chosen c
    rw [ih stepped reached, h.perform chosen c stepped]
    cases gives : given c.call <;> simp [gives, List.getLast?_cons]

theorem last_bound (read : Query.Call → Option Value) (calls : List ClauseCall) :
    (calls.filterMap fun c => (read c.call).map Page.bound).getLast?.getD none =
      (calls.filterMap fun c => read c.call).getLast?.bind Page.bound := by
  rw [← List.map_filterMap, List.getLast?_map]
  cases (calls.filterMap fun c => read c.call).getLast? <;> rfl

/-! ## Interleavings -/

def opened (dialect : Dialect) (session : Session) (table : Value) : Workspace :=
  ⟨({ dialect := dialect } : Builder).table table, session⟩

/-- Runs of clause calls on the same table whose calls on each part are the same give the same
text, bindings and answers, and the page has the last limit and the last offset. -/
theorem interleavings_agree (dialect dialect' : Dialect) (session session' : Session)
    (table : Value) (calls calls' : List ClauseCall)
    (same : ∀ p, ClauseCall.on p calls = ClauseCall.on p calls') :
    let w := opened dialect session table
    let w' := opened dialect' session' table
    ((w.run calls).perform .sql).1 = ((w'.run calls').perform .sql).1 ∧
      ((w.run calls).perform .bindings).1 = ((w'.run calls').perform .bindings).1 ∧
      (∀ p, w.answersOn p calls = w'.answersOn p calls') ∧
      ∃ q, (w.run calls).builder.query = some q ∧ (w'.run calls').builder.query = some q ∧
        q.page.limit = (calls.filterMap fun c => c.call.limit?).getLast?.bind Page.bound ∧
        q.page.offset = (calls.filterMap fun c => c.call.offset?).getLast?.bind Page.bound := by
  intro w w'
  have chosen : w.builder.query = some { table := table } := rfl
  have chosen' : w'.builder.query = some { table := table } := rfl
  have alike (p : Part) : Alike p w w' := ⟨_, _, chosen, chosen', rfl, rfl⟩
  obtain ⟨q, reached, -, kind, assignments⟩ := run_keeps chosen calls
  obtain ⟨q', reached', -, kind', assignments'⟩ := run_keeps chosen' calls'
  have parts (p : Part) : q.table = q'.table ∧ q.part p = q'.part p := by
    obtain ⟨_, _, again, again', table, part⟩ := ((alike p).runs (same p)).2
    obtain rfl := Option.some.inj (reached.symm.trans again)
    obtain rfl := Option.some.inj (reached'.symm.trans again')
    exact ⟨table, part⟩
  obtain rfl : q = q' := Query.eq_of_parts (parts .columns).1 (kind.trans kind'.symm)
    (assignments.trans assignments'.symm) fun p => (parts p).2
  refine ⟨?_, ?_, fun p => ((alike p).runs (same p)).1, q, reached, reached', ?_, ?_⟩
  · rw [sql_eq reached, sql_eq reached']
  · rw [bindings_eq reached, bindings_eq reached']
  · exact (replaces_limit.run chosen calls reached).trans (last_bound _ calls)
  · exact (replaces_offset.run chosen calls reached).trans (last_bound _ calls)

def adults : ClauseCall :=
  ⟨.wheres, .compare "age" (some (.text ">")) (some (.int 17)) none, rfl, .inl rfl⟩

def halfGroup : ClauseCall :=
  ⟨.wheres, .group [.chained (.compare "a" (some (.int 1)) none none) [.limit (.int 3)],
    .filter (.between "b" (.list [])) none] none, rfl, .inl rfl⟩

def pageOf (size : Int) : ClauseCall :=
  ⟨.limit, .limit (.int size), rfl, .inl rfl⟩

def passing (rows : Int) : ClauseCall :=
  ⟨.offset, .offset (.int rows), rfl, .inl rfl⟩

theorem page_either_order :
    let calls := [adults, pageOf 10, passing 40, halfGroup, pageOf 20]
    let calls' := [pageOf 10, pageOf 20, adults, halfGroup, passing 40]
    let w := opened .mysql { connection := none } (.text "people")
    (∀ p, ClauseCall.on p calls = ClauseCall.on p calls') ∧
      ((w.run calls).perform .sql).1 = ((w.run calls').perform .sql).1 ∧
      ((w.run calls).perform .bindings).1 = ((w.run calls').perform .bindings).1 ∧
      w.answersOn .wheres calls = w.answersOn .wheres calls' ∧
      ∃ q, (w.run calls).builder.query = some q ∧ (w.run calls').builder.query = some q ∧
        q.page.limit = some (.int 20) ∧ q.page.offset = some (.int 40) := by
  intro calls calls' w
  have same : ∀ p, ClauseCall.on p calls = ClauseCall.on p calls' := by
    intro p
    cases p <;> rfl
  obtain ⟨sql, bindings, answers, page⟩ := interleavings_agree .mysql .mysql
    { connection := none } { connection := none } (.text "people") calls calls' same
  exact ⟨same, sql, bindings, answers .wheres, page⟩

end Workspace

end FluentSql
