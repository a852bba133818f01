import FluentSql.Proofs.Sending
import FluentSql.Proofs.StatementParts

/-!
# Writes that are not sent

A call that writes changes the query first: its kind and, if they can be read,
its assignments. Then it may find that there is no connection or no statement to
send, and it leaves the change behind. So text and bindings are as before exactly
if the query was a statement of that kind already, with the same columns and
values.
-/

set_option autoImplicit false

namespace FluentSql

namespace Query

/-! ## Statements that read the same -/

theorem head_opening (q : Query) (rest : String) :
    (q.opening ++ rest).toList.head? = (Keyword.word q.kind).toList.head? := by
  unfold opening
  cases q.kind <;> simp [Keyword.word]

theorem kind_of_head {k l : StatementKind}
    (same : (Keyword.word k).toList.head? = (Keyword.word l).toList.head?) : k = l := by
  cases k <;> cases l <;> first | rfl | simp [Keyword.word] at same

theorem closing_assigned (q : Query) {assignments : List (Value × Value)}
    (bindings : { q with assignments := assignments }.bindings = q.bindings) :
    { q with assignments := assignments }.closing = q.closing := by
  unfold closing
  cases kind : q.kind with
  | insert =>
    have values : assignments.map Prod.snd = q.assignments.map Prod.snd := by
      simpa [Query.bindings, bindingsAs, kind] using bindings
    simp only [values]
  | select | update | delete => rfl

theorem prepared_written_iff (q : Query) (kind : StatementKind)
    (assignments : List (Value × Value)) :
    let written := { q with kind := kind, assignments := assignments }
    written.bindings = q.bindings →
      (written.prepared = q.prepared ↔ written.listing = q.listing ∧
        (kind = q.kind ∨ ∃ fault, q.listing = .error fault)) := by
  intro written bindings
  rw [prepared_eq_parts written, prepared_eq_parts q, bindings]
  cases written.listing with
  | error fault =>
    cases q.listing <;> simp [Except.map]
  | ok columns =>
    cases q.listing with
    | error fault => simp [Except.map]
    | ok columns' =>
      simp only [Except.map, Except.ok.injEq, Prod.mk.injEq, and_true, reduceCtorEq, exists_false,
        or_false, String.append_assoc]
      have around :
          kind = q.kind → written.opening = q.opening ∧ written.closing = q.closing := by
        rintro rfl
        exact ⟨rfl, closing_assigned q bindings⟩
      constructor
      · intro text
        have heads := congrArg (fun text : String => text.toList.head?) text
        rw [head_opening, head_opening] at heads
        have kinds : kind = q.kind := kind_of_head heads
        obtain ⟨opening, closing⟩ := around kinds
        rw [opening, closing] at text
        exact ⟨by simpa using text, kinds⟩
      · rintro ⟨rfl, kinds⟩
        obtain ⟨opening, closing⟩ := around kinds
        rw [opening, closing]

theorem executed_write (q : Query) {call : Call} {kind : StatementKind}
    (writes : call.kind? = some kind) (changing : kind ≠ .select) :
    q.executed call =
      { q with kind := kind, assignments := call.written?.getD q.assignments } := by
  have notFirst : call.isFirst = false := by
    cases call with
    | first => exact absurd (Option.some.inj writes).symm changing
    | _ => rfl
  rw [executed, writes, notFirst]
  rfl

end Query

namespace Workspace

/-- A write that sends nothing is refused, as there is no connection or no statement with as many
placeholders as values. Without a table it changes nothing. Otherwise the query is left as it was
to be written; so text and bindings are as before if and only if the kind, the columns and the
values are, unless there was no text before and there is none after. -/
theorem unsent_write_unchanged_iff (w : Workspace) (call : Query.Call) {kind : StatementKind}
    (writes : call.kind? = some kind) (changing : kind ≠ .select)
    (unsent : (w.perform call).2.session.sent = w.session.sent) :
    (w.builder.query = none → (w.perform call).2 = w) ∧
      ∀ q, w.builder.query = some q →
        let after := w.perform call
        let written :=
          { q with kind := kind, assignments := call.written?.getD q.assignments }
        (∃ fault, after.1 = .error fault) ∧
          (w.session.connection = none ∨ ∀ sql values, q.handed call = .ok (sql, values) →
            Scan.placeholderCount sql ≠ values.length) ∧
          after.2.builder.query = some written ∧
          ((after.2.perform .sql).1 = (w.perform .sql).1 ∧
              (after.2.perform .bindings).1 = (w.perform .bindings).1 ↔
            written.bindings = q.bindings ∧ written.listing = q.listing ∧
              (kind = q.kind ∨ ∃ fault, q.listing = .error fault)) := by
  have executing : call.kind?.isSome := by
    rw [writes]
    rfl
  refine ⟨fun none => perform_executing_none none executing, fun q chosen => ?_⟩
  intro after written
  have left : after.2.builder.query = some written := by
    rw [perform_executing chosen executing, q.executed_write writes changing]
  have performed := perform_executing_eq chosen call executing
  have nothing : (w.session.carryOut q call).2.sent = w.session.sent := by
    rwa [performed] at unsent
  obtain ⟨fault, refused⟩ := Session.carryOut_unsent nothing
  refine ⟨⟨fault, ?_⟩, Session.sent_carryOut_iff.mp nothing, left, ?_⟩
  · change (w.perform call).1 = _
    rw [performed, refused]
    rfl
  · rw [shown_eq_iff chosen left, and_comm]
    exact and_congr_right fun bindings => q.prepared_written_iff kind _ bindings

def unconnected : Workspace where
  builder := tickets.builder
  session := { connection := none }

/-- One update has nowhere to go, and one is given a number, which cannot be read as assignments.
Both leave an update behind, the second one without any columns. -/
theorem tickets_unsent_updates :
    let lost := unconnected.perform (.update (.map [("state", .text "closed")]))
    let unread := tickets.perform (.update (.int 5))
    lost.2.session.sent = unconnected.session.sent ∧
      unread.2.session.sent = tickets.session.sent ∧
      (∃ fault, lost.1 = .error fault) ∧ (∃ fault, unread.1 = .error fault) ∧
      ¬((lost.2.perform .sql).1 = (unconnected.perform .sql).1 ∧
        (lost.2.perform .bindings).1 = (unconnected.perform .bindings).1) ∧
      ¬((unread.2.perform .sql).1 = (tickets.perform .sql).1 ∧
        (unread.2.perform .bindings).1 = (tickets.perform .bindings).1) ∧
      (unread.2.perform .sql).1 = .ok (.value (.text "UPDATE tickets SET  WHERE state = ?")) := by
  intro lost unread
  have updates : StatementKind.update ≠ openTickets.kind := by decide
  obtain ⟨lostFault, -, -, lostSame⟩ := (unsent_write_unchanged_iff unconnected
    (.update (.map [("state", .text "closed")])) rfl (by decide) rfl).2 openTickets rfl
  obtain ⟨unreadFault, -, -, unreadSame⟩ := (unsent_write_unchanged_iff tickets
    (.update (.int 5)) rfl (by decide) rfl).2 openTickets rfl
  refine ⟨rfl, rfl, lostFault, unreadFault, fun same => ?_, fun same => ?_, rfl⟩
  · obtain ⟨-, -, updating | ⟨fault, untold⟩⟩ := lostSame.mp same
    · exact updates updating
    · cases untold
  · obtain ⟨-, -, updating | ⟨fault, untold⟩⟩ := unreadSame.mp same
    · exact updates updating
    · cases untold

end Workspace

end FluentSql
