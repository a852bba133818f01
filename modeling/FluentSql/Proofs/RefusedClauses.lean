import FluentSql.Proofs.ClauseCalls

/-!
# Refused clause calls

A clause call is carried out as a whole or not at all. What it adds is described
before it is added: a join with all its conditions, a group on a builder of its
own. So a call that is refused, at whatever point and however deep in a group,
leaves the builder as it was, even if statements were run meanwhile. A call that
is carried out changes its own part of the query only, and adds one clause to it
at most.
-/

set_option autoImplicit false

namespace FluentSql

namespace Query

/-- What one call makes of its part: columns and bounds are replaced, clauses are followed by one
more. A group without clauses adds nothing. -/
def Part.Continues : (p : Part) → (before after : p.Content) → Prop
  | .wheres, before, after => after = before ∨ ∃ added, after = before ++ [added]
  | .joins, before, after => ∃ added, after = before ++ [added]
  | .orders, before, after => ∃ added, after = before ++ [added]
  | .columns, _, _ | .limit, _, _ | .offset, _, _ => True

end Query

namespace Workspace

open Query (Part)

/-- The builder is as it was after a refusal, and one part of its query goes on otherwise. -/
def Whole (b : Builder) (p : Part) (r : Except Fault Answer × Workspace) : Prop :=
  match r.1 with
  | .error _ => r.2.builder = b
  | .ok _ => ∀ q, b.query = some q →
    ∃ x, p.Continues (q.part p) x ∧ r.2.builder = b.withQuery (q.putPart p x)

variable {α : Type} {w : Workspace} {q : Query} {p : Part} {call : Query.Call}

theorem Whole.refused {b : Builder} {r : Except Fault Answer × Workspace} {fault : Fault}
    (h : Whole b p r) (refused : r.1 = .error fault) : r.2.builder = b := by
  rwa [Whole, refused] at h

theorem Whole.done {b : Builder} {r : Except Fault Answer × Workspace} {answer : Answer}
    (h : Whole b p r) (done : r.1 = .ok answer) (chosen : b.query = some q) :
    ∃ x, p.Continues (q.part p) x ∧ r.2.builder = b.withQuery (q.putPart p x) := by
  rw [Whole, done] at h
  exact h q chosen

theorem whole_of_map (chosen : w.builder.query = some q) (read : Except Fault α)
    (edit : α → p.Content) (continues : ∀ x, p.Continues (q.part p) (edit x)) :
    Whole w.builder p
      (w.changed (read.map fun x => w.builder.withQuery (q.putPart p (edit x)))) := by
  cases read with
  | error fault => rfl
  | ok x =>
    intro q' again
    obtain rfl := Option.some.inj (chosen.symm.trans again)
    exact ⟨edit x, continues x, rfl⟩

theorem whole_addGroup (chosen : w.builder.query = some q) (members : List Where)
    (connective : Option Value) :
    Whole w.builder .wheres (w.changed (w.builder.addGroup q members connective)) := by
  cases members with
  | nil =>
    intro q' again
    exact ⟨q'.wheres, .inl rfl, (Builder.withQuery_self again).symm⟩
  | cons first rest =>
    exact whole_of_map (p := .wheres) chosen (Connective.ofGiven connective)
      (fun connective => q.wheres ++ [.group connective (first :: rest)])
      fun connective => .inr ⟨_, rfl⟩

/-- The calls of a group are performed on a builder of their own, so nothing that they add before
one of them fails is added to the query. -/
theorem whole_group (chosen : w.builder.query = some q) (members : List Query.Call)
    (connective : Option Value) :
    Whole w.builder .wheres (w.perform (.group members connective)) := by
  rw [perform, withCurrent_eq chosen]
  let inner := ((w.forGroup q).performAll members).2
  dsimp only
  split
  · exact (rfl : w.builder = w.builder)
  · exact whole_addGroup (w := { w with session := inner.session }) chosen _ connective

theorem whole_perform (w : Workspace) (about : call.part? = some p) :
    Whole w.builder p (w.perform call) := by
  cases chosen : w.builder.query with
  | none =>
    have kept := perform_none chosen about
    unfold Whole
    split
    · rw [kept]
    · intro q again
      rw [chosen] at again
      cases again
  | some q =>
    cases call with
    | select columns =>
      cases about
      rw [perform, Builder.select_eq chosen]
      exact whole_of_map (p := .columns) chosen _ id fun _ => trivial
    | compare column operator value connective =>
      cases about
      rw [perform, Builder.compare_eq chosen]
      exact whole_of_map (p := .wheres) chosen _ (fun added => q.wheres ++ [added])
        fun added => .inr ⟨added, rfl⟩
    | filter f connective =>
      cases about
      rw [perform, Builder.filter_eq chosen]
      exact whole_of_map (p := .wheres) chosen _ (fun added => q.wheres ++ [added])
        fun added => .inr ⟨added, rfl⟩
    | group members connective =>
      cases about
      exact whole_group chosen members connective
    | join kind table left operator right =>
      cases about
      rw [perform, Builder.join_bind, Builder.bind_addJoin_eq chosen]
      exact whole_of_map (p := .joins) chosen _ (fun j => q.joins ++ [j])
        fun j => ⟨j, rfl⟩
    | joinWith kind table conditions =>
      cases about
      rw [perform, Builder.joinWith_bind, Builder.bind_addJoin_eq chosen]
      exact whole_of_map (p := .joins) chosen _ (fun j => q.joins ++ [j])
        fun j => ⟨j, rfl⟩
    | orderBy column direction =>
      cases about
      rw [perform, Builder.orderBy_eq chosen]
      exact whole_of_map (p := .orders) chosen _ (fun order => q.orders ++ [order])
        fun order => ⟨order, rfl⟩
    | limit bound =>
      cases about
      rw [perform, Builder.limit_eq chosen]
      exact whole_of_map (p := .limit) chosen (.ok bound) Page.bound fun _ => trivial
    | offset bound =>
      cases about
      rw [perform, Builder.offset_eq chosen]
      exact whole_of_map (p := .offset) chosen (.ok bound) Page.bound fun _ => trivial
    | _ => cases about

/-- A clause call that is refused leaves the builder as it was, whatever the reason is; one that is
carried out continues its own part of the query and changes nothing else. -/
theorem clause_call_whole_or_not (w : Workspace) {call : Query.Call} {p : Part}
    (about : call.part? = some p ∨ ∃ fault, call = .refused fault) :
    (∀ fault, (w.perform call).1 = .error fault → (w.perform call).2.builder = w.builder) ∧
      ∀ answer q, (w.perform call).1 = .ok answer → w.builder.query = some q →
        ∃ x, p.Continues (q.part p) x ∧
          (w.perform call).2.builder = w.builder.withQuery (q.putPart p x) := by
  rcases about with about | ⟨fault, rfl⟩
  · have whole := whole_perform w about
    exact ⟨fun _ refused => whole.refused refused,
      fun _ _ done chosen => whole.done done chosen⟩
  · exact ⟨fun _ _ => rfl, fun _ _ done => by cases done⟩

/-- Both groups have a clause when the database turns down the count in the inner one. -/
def unfinishedGroup : Query.Call :=
  .group [
    .compare "title" (some (.text "?")) none none,
    .group [.filter (.isNull "closed") none, .count none] Query.Call.alternative] none

theorem tickets_unfinished_group :
    unfinishedGroup.part? = some .wheres ∧
      (tickets.perform unfinishedGroup).1 = .error (.execution (.rejected "gone away")) ∧
      (tickets.perform unfinishedGroup).2.builder = tickets.builder := by
  have refused :
      (tickets.perform unfinishedGroup).1 = .error (.execution (.rejected "gone away")) := rfl
  exact ⟨rfl, refused, (clause_call_whole_or_not tickets (.inl rfl)).1 _ refused⟩

end Workspace

end FluentSql
