import FluentSql.Proofs.Executing
import FluentSql.Proofs.Results

/-!
# Clause calls and the parts of a query

A clause call is about one part of the query: the columns, the conditions, the
joins, the order, the limit or the offset. Once a table is chosen it edits that
part or is refused, and neither depends on the other parts, the dialect or the
session. A group is described on a builder of its own, so this holds of it,
too, if the calls that describe it are all about clauses.
-/

set_option autoImplicit false

namespace FluentSql

namespace Query

/-! ## Parts -/

inductive Part where
  | columns
  | wheres
  | joins
  | orders
  | limit
  | offset
  deriving DecidableEq, Repr

abbrev Part.Content : Part → Type
  | columns => List Value
  | wheres => List Where
  | joins => List Join
  | orders => List Order
  | limit | offset => Option Value

def part (q : Query) : (p : Part) → p.Content
  | .columns => q.columns
  | .wheres => q.wheres
  | .joins => q.joins
  | .orders => q.orders
  | .limit => q.page.limit
  | .offset => q.page.offset

def putPart (q : Query) : (p : Part) → p.Content → Query
  | .columns, columns => { q with columns := columns }
  | .wheres, wheres => { q with wheres := wheres }
  | .joins, joins => { q with joins := joins }
  | .orders, orders => { q with orders := orders }
  | .limit, bound => { q with page := { q.page with limit := bound } }
  | .offset, bound => { q with page := { q.page with offset := bound } }

variable (q : Query) {p : Part} (x : p.Content)

theorem part_putPart : (q.putPart p x).part p = x := by
  cases p <;> rfl

theorem part_putPart_other {other : Part} (different : other ≠ p) :
    (q.putPart p x).part other = q.part other := by
  cases p <;> cases other <;> first | rfl | exact absurd rfl different

theorem putPart_table : (q.putPart p x).table = q.table := by
  cases p <;> rfl

theorem putPart_kind : (q.putPart p x).kind = q.kind := by
  cases p <;> rfl

theorem putPart_assignments : (q.putPart p x).assignments = q.assignments := by
  cases p <;> rfl

theorem eq_of_parts {q q' : Query} (table : q.table = q'.table) (kind : q.kind = q'.kind)
    (assignments : q.assignments = q'.assignments) (parts : ∀ p, q.part p = q'.part p) :
    q = q' := by
  obtain ⟨_, _, columns, wheres, joins, orders, ⟨limit, offset⟩, _⟩ := q
  obtain ⟨_, _, columns', wheres', joins', orders', ⟨limit', offset'⟩, _⟩ := q'
  obtain rfl : columns = columns' := parts .columns
  obtain rfl : wheres = wheres' := parts .wheres
  obtain rfl : joins = joins' := parts .joins
  obtain rfl : orders = orders' := parts .orders
  obtain rfl : limit = limit' := parts .limit
  obtain rfl : offset = offset' := parts .offset
  obtain rfl := table
  obtain rfl := kind
  obtain rfl := assignments
  rfl

end Query

namespace Query.Call

/-! ## Clause calls -/

def part? : Call → Option Part
  | select _ => some .columns
  | compare _ _ _ _ | filter _ _ | group _ _ => some .wheres
  | join _ _ _ _ _ | joinWith _ _ _ => some .joins
  | orderBy _ _ => some .orders
  | limit _ => some .limit
  | offset _ => some .offset
  | _ => none

mutual

/-- The calls about clauses, also in a chain or with arguments that do not fit. The calls that
describe a group are all about clauses, too. -/
def isClausal : Call → Bool
  | select _ | compare _ _ _ _ | filter _ _ | join _ _ _ _ _ | joinWith _ _ _ | orderBy _ _
  | limit _ | offset _ | refused _ => true
  | group members _ => areClausal members
  | chained head rest => isClausal head && areClausal rest
  | _ => false

def areClausal : List Call → Bool
  | [] => true
  | call :: rest => isClausal call && areClausal rest

end

/-- Once a table is chosen, the call edits a part or is refused, whatever the rest of the query,
the dialect and the session are. -/
def Edits (call : Call) (p : Part) : Prop :=
  ∃ outcome : Value → Except Fault (p.Content → p.Content),
    ∀ (w : Workspace) (q : Query), w.builder.query = some q →
      w.perform call = w.changed ((outcome q.table).map fun edit =>
        w.builder.withQuery (q.putPart p (edit (q.part p))))

theorem edits_refused (fault : Fault) (p : Part) : Edits (refused fault) p :=
  ⟨fun _ => .error fault, fun _ _ _ => rfl⟩

end Query.Call

namespace Builder

variable {b : Builder} {q : Query}

theorem current_eq (chosen : b.query = some q) : b.current = .ok q := by
  rw [current, chosen]

theorem current_none (none : b.query = none) : b.current = .error (.query .noTable) := by
  rw [current, none]

theorem withQuery_self (chosen : b.query = some q) : b.withQuery q = b := by
  rw [withQuery, ← chosen]

theorem select_eq (chosen : b.query = some q) (given : List Value) :
    b.select given = (columnList given).map fun columns =>
      b.withQuery { q with columns := columns } := by
  rw [select, current_eq chosen]
  cases columnList given <;> rfl

theorem filter_eq (chosen : b.query = some q) (f : Filter) (connective : Option Value) :
    b.filter f connective = (f.listed.bind fun f => f.clause connective).map (b.addWhere q) := by
  rw [filter, current_eq chosen]
  cases f.listed with
  | error fault => rfl
  | ok f =>
    simp only [bind, Except.bind]
    cases f.clause connective <;> rfl

theorem compare_eq (chosen : b.query = some q) (column : String)
    (operator value connective : Option Value) :
    b.compare column operator value connective =
      ((Filter.ofComparison column operator value).bind fun f =>
        f.listed.bind fun f => f.clause connective).map (b.addWhere q) := by
  rw [compare]
  cases Filter.ofComparison column operator value with
  | error fault => rfl
  | ok f => exact filter_eq chosen f connective

theorem addJoin_eq (chosen : b.query = some q) (j : Join) :
    b.addJoin j = .ok (b.withQuery { q with joins := q.joins ++ [j] }) := by
  rw [addJoin, current_eq chosen]
  rfl

theorem addJoin_none (none : b.query = none) (j : Join) :
    b.addJoin j = .error (.query .noTable) := by
  rw [addJoin, current_none none]
  rfl

def described (kind : Option Value) (table left : String) (operator right : Option String) :
    Except Fault Join := do
  let j ← Join.ofGiven kind table
  match operator, right with
  | some operator, some right => j.perform (.on left operator right none)
  | _, _ => .error (.query (.joinOperands table))

theorem join_bind (b : Builder) (kind : Option Value) (table left : String)
    (operator right : Option String) :
    b.join kind table left operator right =
      (described kind table left operator right).bind b.addJoin := by
  rw [join, described]
  cases Join.ofGiven kind table with
  | error fault => rfl
  | ok j =>
    cases operator with
    | none => rfl
    | some operator => cases right <;> rfl

theorem joinWith_bind (b : Builder) (kind : Option Value) (table : String)
    (calls : List Join.Call) :
    b.joinWith kind table calls =
      ((Join.ofGiven kind table).bind fun j => j.performAll calls).bind b.addJoin := by
  rw [joinWith]
  cases Join.ofGiven kind table <;> rfl

theorem bind_addJoin_eq (chosen : b.query = some q) (r : Except Fault Join) :
    r.bind b.addJoin = r.map fun j => b.withQuery { q with joins := q.joins ++ [j] } := by
  cases r with
  | error fault => rfl
  | ok j => exact addJoin_eq chosen j

theorem orderBy_eq (chosen : b.query = some q) (column : String) (direction : Option Value) :
    b.orderBy column direction = (Order.ofGiven column direction).map fun order =>
      b.withQuery { q with orders := q.orders ++ [order] } := by
  rw [orderBy, current_eq chosen]
  simp only [bind, Except.bind]
  cases Order.ofGiven column direction <;> rfl

theorem limit_eq (chosen : b.query = some q) (v : Value) :
    b.limit v = .ok (b.withQuery { q with page := { q.page with limit := Page.bound v } }) := by
  rw [limit, current_eq chosen]
  rfl

theorem offset_eq (chosen : b.query = some q) (v : Value) :
    b.offset v = .ok (b.withQuery { q with page := { q.page with offset := Page.bound v } }) := by
  rw [offset, current_eq chosen]
  rfl

end Builder

namespace Workspace

/-! ## What clause calls do -/

/-- A run that ends with `done` or is refused, and edits the query: both are told from the query
alone, and the session is left as it is. -/
def Confined {α : Type} (done : α) (run : Workspace → Except Fault α × Workspace) : Prop :=
  ∃ (outcome : Query → Except Fault Unit) (edit : Query → Query),
    ∀ (w : Workspace) (q : Query), w.builder.query = some q →
      run w = ((outcome q).map fun _ => done, w.setQuery (edit q))

variable {α β : Type} {done : α} {p : Query.Part} {call : Query.Call}

theorem setQuery_self {w : Workspace} {q : Query} (chosen : w.builder.query = some q) :
    w.setQuery q = w := by
  rw [setQuery, Builder.withQuery_self chosen]

theorem confined_done (done : α) : Confined done fun w => (.ok done, w) :=
  ⟨fun _ => .ok (), id, fun _ _ chosen => by rw [id, setQuery_self chosen]; rfl⟩

theorem confined_fault (done : α) (fault : Fault) : Confined done fun w => (.error fault, w) :=
  ⟨fun _ => .error fault, id, fun _ _ chosen => by rw [id, setQuery_self chosen]; rfl⟩

theorem Confined.andThen {done' : β} {run : Workspace → Except Fault α × Workspace}
    {next : α → Workspace → Except Fault β × Workspace} (first : Confined done run)
    (later : Confined done' (next done)) :
    Confined done' fun w => FluentSql.andThen (run w) next := by
  obtain ⟨outcome, edit, first⟩ := first
  obtain ⟨outcome', edit', later⟩ := later
  refine ⟨fun q => (outcome q).bind fun _ => outcome' (edit q),
    fun q => match outcome q with | .ok _ => edit' (edit q) | .error _ => edit q,
    fun w q chosen => ?_⟩
  dsimp only
  rw [first w q chosen]
  cases outcome q with
  | error fault => rfl
  | ok _ => exact later (w.setQuery (edit q)) (edit q) rfl

theorem confined_of_edits (h : call.Edits p) : Confined .receiver fun w => w.perform call := by
  obtain ⟨outcome, performed⟩ := h
  refine ⟨fun q => (outcome q.table).map fun _ => (),
    fun q => match outcome q.table with
      | .ok edit => q.putPart p (edit (q.part p))
      | .error _ => q,
    fun w q chosen => ?_⟩
  dsimp only
  rw [performed w q chosen]
  cases outcome q.table with
  | error fault =>
    rw [setQuery_self chosen]
    rfl
  | ok edit => rfl

theorem edits_of_map (read : Except Fault α) (edit : α → p.Content → p.Content)
    (performed : ∀ (w : Workspace) (q : Query), w.builder.query = some q →
      w.perform call = w.changed (read.map fun x =>
        w.builder.withQuery (q.putPart p (edit x (q.part p))))) : call.Edits p := by
  refine ⟨fun _ => read.map edit, fun w q chosen => ?_⟩
  rw [performed w q chosen]
  cases read <;> rfl

def grouped (members : List Where) (connective : Option Value) :
    Except Fault (List Where → List Where) :=
  if members.isEmpty then .ok id
  else (Connective.ofGiven connective).map fun connective wheres =>
    wheres ++ [.group connective members]

/-- A group is described on a builder of its own, so nothing of the query but its table counts. -/
theorem edits_group {members : List Query.Call} (connective : Option Value)
    (described : Confined () fun w => w.performAll members) :
    Query.Call.Edits (.group members connective) .wheres := by
  obtain ⟨outcome, edit, run⟩ := described
  refine ⟨fun table =>
    let new : Query := { table := table }
    (outcome new).bind fun _ => grouped (edit new).wheres connective, fun w q chosen => ?_⟩
  have inner := run (w.forGroup q) { table := q.table } rfl
  rw [perform, withCurrent_eq chosen]
  dsimp only at inner ⊢
  rw [inner]
  cases outcome { table := q.table } with
  | error fault => rfl
  | ok _ =>
    change w.changed (w.builder.addGroup q (edit { table := q.table }).wheres connective) = _
    cases (edit { table := q.table }).wheres with
    | nil =>
      change _ = w.changed (.ok (w.builder.withQuery q))
      rw [Builder.withQuery_self chosen]
      rfl
    | cons first rest =>
      simp only [Builder.addGroup, Except.bind, grouped]
      cases Connective.ofGiven connective <;> rfl

theorem edits_of_part (fits : call.part? = some p)
    (described : ∀ members connective, call = .group members connective →
      Confined () fun w => w.performAll members) : call.Edits p := by
  cases call with
  | select columns =>
    cases fits
    exact edits_of_map _ (fun columns _ => columns) fun w q chosen =>
      congrArg w.changed (Builder.select_eq chosen columns)
  | compare column operator value connective =>
    cases fits
    exact edits_of_map _ (fun added wheres => wheres ++ [added]) fun w q chosen =>
      congrArg w.changed (Builder.compare_eq chosen column operator value connective)
  | filter f connective =>
    cases fits
    exact edits_of_map _ (fun added wheres => wheres ++ [added]) fun w q chosen =>
      congrArg w.changed (Builder.filter_eq chosen f connective)
  | group members connective =>
    cases fits
    exact edits_group connective (described members connective rfl)
  | join kind table left operator right =>
    cases fits
    exact edits_of_map _ (fun j joins => joins ++ [j]) fun w q chosen =>
      congrArg w.changed ((Builder.join_bind ..).trans (Builder.bind_addJoin_eq chosen _))
  | joinWith kind table conditions =>
    cases fits
    exact edits_of_map _ (fun j joins => joins ++ [j]) fun w q chosen =>
      congrArg w.changed ((Builder.joinWith_bind ..).trans (Builder.bind_addJoin_eq chosen _))
  | orderBy column direction =>
    cases fits
    exact edits_of_map _ (fun order orders => orders ++ [order]) fun w q chosen =>
      congrArg w.changed (Builder.orderBy_eq chosen column direction)
  | limit bound =>
    cases fits
    exact edits_of_map (.ok ()) (fun _ _ => Page.bound bound) fun w q chosen =>
      congrArg w.changed (Builder.limit_eq chosen bound)
  | offset bound =>
    cases fits
    exact edits_of_map (.ok ()) (fun _ _ => Page.bound bound) fun w q chosen =>
      congrArg w.changed (Builder.offset_eq chosen bound)
  | _ => cases fits

theorem perform_none {w : Workspace} (none : w.builder.query = none)
    (fits : call.part? = some p) : (w.perform call).2 = w := by
  have current := Builder.current_none none
  cases call with
  | group members connective => rw [perform, withCurrent, none]
  | select columns =>
    rw [perform, Builder.select, current]
    cases Builder.columnList columns <;> rfl
  | compare column operator value connective =>
    rw [perform, Builder.compare]
    cases Filter.ofComparison column operator value with
    | error fault => rfl
    | ok f =>
      simp only [bind, Except.bind, Builder.filter, current]
      rfl
  | filter f connective =>
    rw [perform, Builder.filter, current]
    rfl
  | join kind table left operator right =>
    rw [perform, Builder.join_bind]
    cases Builder.described kind table left operator right with
    | error fault => rfl
    | ok j =>
      rw [Except.bind, Builder.addJoin_none none]
      rfl
  | joinWith kind table conditions =>
    rw [perform, Builder.joinWith_bind]
    cases (Join.ofGiven kind table).bind fun j => j.performAll conditions with
    | error fault => rfl
    | ok j =>
      rw [Except.bind, Builder.addJoin_none none]
      rfl
  | orderBy column direction =>
    rw [perform, Builder.orderBy, current]
    rfl
  | limit bound =>
    rw [perform, Builder.limit, current]
    rfl
  | offset bound =>
    rw [perform, Builder.offset, current]
    rfl
  | _ => cases fits

mutual

theorem confined_perform (call : Query.Call) (clausal : call.isClausal) :
    Confined .receiver fun w => w.perform call := by
  cases call with
  | group members connective =>
    exact confined_of_edits (edits_group connective (confined_performAll members clausal))
  | chained head rest =>
    rw [Query.Call.isClausal, Bool.and_eq_true] at clausal
    exact (confined_perform head clausal.1).andThen (confined_performChain rest clausal.2)
  | refused fault => exact confined_fault _ fault
  | select _ | compare _ _ _ _ | filter _ _ | join _ _ _ _ _ | joinWith _ _ _ | orderBy _ _
  | limit _ | offset _ =>
    exact confined_of_edits (edits_of_part rfl fun _ _ same => by cases same)
  | _ => cases clausal

theorem confined_performAll (calls : List Query.Call) (clausal : Query.Call.areClausal calls) :
    Confined () fun w => w.performAll calls := by
  cases calls with
  | nil => exact confined_done ()
  | cons call rest =>
    rw [Query.Call.areClausal, Bool.and_eq_true] at clausal
    exact (confined_perform call clausal.1).andThen (confined_performAll rest clausal.2)

theorem confined_performChain (calls : List Query.Call)
    (clausal : Query.Call.areClausal calls) :
    Confined .receiver fun w => w.performChain .receiver calls := by
  cases calls with
  | nil => exact confined_done _
  | cons call rest =>
    rw [Query.Call.areClausal, Bool.and_eq_true] at clausal
    exact (confined_perform call clausal.1).andThen (confined_performChain rest clausal.2)

end

end Workspace

end FluentSql
