import FluentSql.Proofs.ClauseCalls
import FluentSql.Proofs.WhereSentences

/-!
# Runs of calls on a query

Executing leaves the conditions of a query alone. They come into a query by
the calls on conditions and groups only: a condition at a time, or a group with
the members that its own calls left, if there are any. A refused call is passed
over. So whatever is called on a new builder, its where list has no empty group
at any depth, and its text is a sentence.
-/

set_option autoImplicit false

namespace FluentSql

/-! ## Clauses -/

namespace Builder

def Filled (b : Builder) : Prop :=
  ∀ q, b.query = some q → Where.AllFilled q.wheres

variable {b b' : Builder}

theorem filled_withQuery {q : Query} (h : Where.AllFilled q.wheres) : (b.withQuery q).Filled := by
  intro q' chosen
  obtain rfl := Option.some.inj chosen
  exact h

theorem Filled.current {q : Query} (h : b.Filled) (chosen : b.current = .ok q) :
    Where.AllFilled q.wheres := by
  unfold Builder.current at chosen
  split at chosen
  · next found =>
    obtain rfl := Except.ok.inj chosen
    exact h _ found
  · cases chosen

theorem Filled.addWhere {q : Query} {w : Where} (h : Where.AllFilled q.wheres)
    (filled : w.IsFilled) : (b.addWhere q w).Filled :=
  filled_withQuery (Where.allFilled_append h ⟨filled, trivial⟩)

theorem Filled.filter {f : Filter} {connective : Option Value} (h : b.Filled)
    (done : b.filter f connective = .ok b') : b'.Filled := by
  obtain ⟨q, chosen, done⟩ := ok_of_bind_ok done
  obtain ⟨f, -, done⟩ := ok_of_bind_ok done
  obtain ⟨w, clause, done⟩ := ok_of_bind_ok done
  obtain ⟨connective, -, clause⟩ := ok_of_bind_ok clause
  obtain ⟨condition, -, clause⟩ := ok_of_bind_ok clause
  obtain rfl := Except.ok.inj clause
  obtain rfl := Except.ok.inj done
  exact Filled.addWhere (h.current chosen) trivial

theorem Filled.compare {column : String} {operator value connective : Option Value}
    (h : b.Filled) (done : b.compare column operator value connective = .ok b') : b'.Filled := by
  obtain ⟨f, -, done⟩ := ok_of_bind_ok done
  exact h.filter done

theorem Filled.addGroup {q : Query} {members : List Where} {connective : Option Value}
    (h : b.Filled) (current : Where.AllFilled q.wheres) (filled : Where.AllFilled members)
    (done : b.addGroup q members connective = .ok b') : b'.Filled := by
  unfold Builder.addGroup at done
  split at done
  · obtain rfl := Except.ok.inj done
    exact h
  · next nonempty =>
    obtain ⟨connective, -, rfl⟩ := ok_of_map_ok done
    exact Filled.addWhere current ⟨nonempty, filled⟩

end Builder

/-! ## Calls -/

namespace Workspace

theorem filled_elsewhere {w : Workspace} {call : Query.Call} {p : Query.Part}
    (fits : call.part? = some p) (elsewhere : p ≠ .wheres) (h : w.builder.Filled) :
    (w.perform call).2.builder.Filled := by
  have noGroup (members : List Query.Call) (connective : Option Value)
      (same : call = .group members connective) :
      Confined () fun w => w.performAll members := by
    rw [same] at fits
    exact absurd (Option.some.inj fits).symm elsewhere
  cases chosen : w.builder.query with
  | none => rwa [perform_none chosen fits]
  | some q =>
    obtain ⟨outcome, performed⟩ := edits_of_part fits noGroup
    rw [performed w q chosen]
    cases outcome q.table with
    | error fault => exact h
    | ok edit =>
      have wheres : (q.putPart p (edit (q.part p))).wheres = q.wheres :=
        q.part_putPart_other _ elsewhere.symm
      apply Builder.filled_withQuery
      rw [wheres]
      exact h q chosen

theorem filled_executing {w : Workspace} {call : Query.Call} (executing : call.kind?.isSome)
    (h : w.builder.Filled) : (w.perform call).2.builder.Filled := by
  cases chosen : w.builder.query with
  | none => rwa [perform_executing_none chosen executing]
  | some q =>
    intro after reached
    rw [perform_executing chosen executing] at reached
    obtain rfl := Option.some.inj reached
    exact h q chosen

theorem filled_changed {w : Workspace} {r : Except Fault Builder} (h : w.builder.Filled)
    (done : ∀ b, r = .ok b → b.Filled) : (w.changed r).2.builder.Filled := by
  unfold changed
  split
  · next b => exact done b rfl
  · exact h

theorem filled_andThen {α β : Type} {r : Except Fault α × Workspace}
    {next : α → Workspace → Except Fault β × Workspace} (first : r.2.builder.Filled)
    (later : ∀ x w, w.builder.Filled → (next x w).2.builder.Filled) :
    (andThen r next).2.builder.Filled := by
  obtain ⟨_ | x, w⟩ := r
  · exact first
  · exact later x w first

theorem filled_members {b : Builder} (h : b.Filled) :
    Where.AllFilled ((b.query.map Query.wheres).getD []) := by
  cases chosen : b.query with
  | none => trivial
  | some q => exact h q chosen

mutual

theorem filled_perform (w : Workspace) (h : w.builder.Filled) (call : Query.Call) :
    (w.perform call).2.builder.Filled := by
  cases call with
  | table name => exact Builder.filled_withQuery trivial
  | compare column operator value connective => exact filled_changed h fun _ done => h.compare done
  | filter f connective => exact filled_changed h fun _ done => h.filter done
  | group members connective =>
    rw [perform, withCurrent]
    cases chosen : w.builder.query with
    | none => exact h
    | some q =>
      have inner := filled_performAll (w.forGroup q) (Builder.filled_withQuery trivial) members
      dsimp only
      split
      · exact h
      · exact filled_changed h fun _ done => h.addGroup (h q chosen) (filled_members inner) done
  | select _ | join _ _ _ _ _ | joinWith _ _ _ | orderBy _ _ | limit _ | offset _ =>
    exact filled_elsewhere rfl (by decide) h
  | sql => rwa [perform, answered, compile_builder]
  | bindings => exact h
  | inlined => rwa [perform, answered, inlined_builder]
  | get | first | count _ | insert _ | insertGetId _ | update _ | delete =>
    exact filled_executing rfl h
  | fresh => exact h
  | shown => exact h
  | chained head rest =>
    rw [perform]
    exact filled_andThen (filled_perform w h head) fun answer after later =>
      filled_performChain after later answer rest
  | refused fault => exact h

theorem filled_performAll (w : Workspace) (h : w.builder.Filled) (calls : List Query.Call) :
    (w.performAll calls).2.builder.Filled := by
  cases calls with
  | nil => exact h
  | cons call rest =>
    rw [performAll]
    exact filled_andThen (filled_perform w h call) fun _ after later =>
      filled_performAll after later rest

theorem filled_performChain (w : Workspace) (h : w.builder.Filled) (target : Answer)
    (calls : List Query.Call) : (w.performChain target calls).2.builder.Filled := by
  cases calls with
  | nil => exact h
  | cons call rest =>
    cases target with
    | receiver =>
      rw [performChain]
      exact filled_andThen (filled_perform w h call) fun answer after later =>
        filled_performChain after later answer rest
    | value v =>
      rw [performChain]
      split
      · exact h
      · next answer _ => exact filled_performChain w h answer rest
    | builder b =>
      -- Calls on another builder leave this one as it is.
      let other := perform { w with builder := b } call
      have kept : ({ w with session := other.2.session } : Workspace).builder.Filled := h
      rw [performChain]
      dsimp only
      split
      · exact h
      · exact filled_performChain _ kept _ rest
      · exact filled_performChain _ kept _ rest

end

theorem filled_afterAll (w : Workspace) (h : w.builder.Filled) (calls : List Query.Call) :
    (w.afterAll calls).builder.Filled := by
  induction calls generalizing w with
  | nil => exact h
  | cons call rest ih => exact ih _ (filled_perform w h call)

/-- After any calls on a new builder, also refused ones, no group is empty, and the where text is a
sentence for the conditions and their values unless there are none. -/
theorem where_sentence (dialect : Dialect) (session : Session) (calls : List Query.Call)
    (q : Query)
    (chosen : (afterAll ⟨{ dialect := dialect }, session⟩ calls).builder.query = some q) :
    Where.AllFilled q.wheres ∧
      (q.wheres = [] → (Where.clause q.wheres).sql = "") ∧
      (q.wheres ≠ [] → ∃ text, Where.Sentence q.wheres text q.whereBindings ∧
        (Where.clause q.wheres).sql = "WHERE " ++ text) := by
  have filled := filled_afterAll ⟨{ dialect := dialect }, session⟩ (fun _ none => by cases none)
    calls q chosen
  refine ⟨filled, fun none => by rw [none]; rfl, fun nonempty => ?_⟩
  refine ⟨_, Where.sentence_listed q.wheres nonempty filled, ?_⟩
  cases wheres : q.wheres with
  | nil => exact absurd wheres nonempty
  | cons w rest => rfl

/-- Refused are the call without a table, and the groups with one bound and without a value; the
second of those had a whole group before that. One group stays empty. -/
def peopleCalls : List Query.Call :=
  [.compare "early" (some (.int 1)) none none,
   .table (.text "people"),
   .group [.filter (.between "age" (.list [.int 1])) none] none,
   .group [] none,
   .compare "state" (some (.text "on")) none Query.Call.alternative,
   .group [
     .group [.filter (.isNull "left") none] none,
     .compare "id" none none none] none,
   .group [
     .filter (.between "age" (.list [.int 20, .int 30])) none,
     .group [.filter (.oneOf "name" (.list [])) none] Query.Call.alternative] none]

def people : Query where
  table := .text "people"
  wheres := [
    .leaf .or (.compare "state" "=" (.text "on")),
    .group .and [
      .leaf .and (.between "age" (.int 20) (.int 30)),
      .group .or [.leaf .and (.oneOf "name" [])]]]

theorem people_where_sentence :
    let after := afterAll ⟨{ dialect := .mysql }, { connection := none }⟩ peopleCalls
    after.builder.query = some people ∧ people.wheres ≠ [] ∧
      (Where.clause people.wheres).sql =
        "WHERE state = ? AND (age BETWEEN ? AND ? OR (name IN ()))" ∧
      Where.AllFilled people.wheres ∧
      ∃ text, Where.Sentence people.wheres text people.whereBindings ∧
        (Where.clause people.wheres).sql = "WHERE " ++ text := by
  intro after
  have chosen : after.builder.query = some people := rfl
  have nonempty : people.wheres ≠ [] := by simp [people]
  obtain ⟨filled, -, sentence⟩ :=
    where_sentence .mysql { connection := none } peopleCalls people chosen
  exact ⟨chosen, nonempty, by decide +kernel, filled, sentence nonempty⟩

end Workspace

end FluentSql
