import FluentSql.Fault

/-!
# Steps that may be refused

A step gives a result or a fault. What is put together from steps gives a
result only if each of them does, and then it is told from theirs.
-/

set_option autoImplicit false

namespace FluentSql

theorem ok_of_bind_ok {α β : Type} {f : α → Except Fault β} {r : Except Fault α} {y : β}
    (h : r >>= f = .ok y) : ∃ x, r = .ok x ∧ f x = .ok y := by
  cases r with
  | ok x => exact ⟨x, rfl, h⟩
  | error fault => cases h

theorem ok_of_map_ok {α β : Type} {f : α → β} {r : Except Fault α} {y : β}
    (h : r.map f = .ok y) : ∃ x, r = .ok x ∧ f x = y := by
  cases r with
  | ok x => exact ⟨x, rfl, Except.ok.inj h⟩
  | error fault => cases h

theorem mem_toOption {α : Type} {r : Except Fault α} {x : α} :
    x ∈ r.toOption.toList ↔ r = .ok x := by
  cases r <;> simp [Except.toOption, eq_comm]

/-! ## A step for each member of a list -/

theorem mapM_ok {α β : Type} {f : α → Except Fault β} {holds : β → Prop} {xs : List α}
    (h : ∀ x ∈ xs, ∃ y, f x = .ok y ∧ holds y) :
    ∃ ys, xs.mapM f = .ok ys ∧ ∀ y ∈ ys, holds y := by
  induction xs with
  | nil => exact ⟨[], rfl, by simp⟩
  | cons x xs ih =>
    obtain ⟨y, first, hy⟩ := h x (by simp)
    obtain ⟨ys, rest, hys⟩ := ih fun z hz => h z (List.mem_cons_of_mem _ hz)
    refine ⟨y :: ys, ?_, List.forall_mem_cons.mpr ⟨hy, hys⟩⟩
    rw [List.mapM_cons, first, rest]
    rfl

theorem mapM_done {α β : Type} {f : α → Except Fault β} {xs : List α}
    (h : ∀ x ∈ xs, ∃ y, f x = .ok y) : ∃ ys, xs.mapM f = .ok ys := by
  have settled : ∀ x ∈ xs, ∃ y, f x = .ok y ∧ True :=
    fun x member => (h x member).imp fun _ done => ⟨done, trivial⟩
  exact (mapM_ok settled).imp fun _ run => run.1

theorem mapM_eq {α β : Type} {f : α → Except Fault β} {g : α → β} {xs : List α}
    (h : ∀ x ∈ xs, f x = .ok (g x)) : xs.mapM f = .ok (xs.map g) := by
  induction xs with
  | nil => rfl
  | cons x xs ih =>
    rw [List.forall_mem_cons] at h
    rw [List.mapM_cons, h.1, ih h.2]
    rfl

theorem map_of_mapM_ok {α β : Type} {f : α → Except Fault β} {xs : List α} {ys : List β}
    (h : xs.mapM f = .ok ys) : xs.map f = ys.map .ok := by
  induction xs generalizing ys with
  | nil =>
    obtain rfl := Except.ok.inj h
    rfl
  | cons x xs ih =>
    rw [List.mapM_cons] at h
    obtain ⟨y, first, h⟩ := ok_of_bind_ok h
    obtain ⟨rest, others, h⟩ := ok_of_bind_ok h
    obtain rfl := Except.ok.inj h
    rw [List.map_cons, List.map_cons, first, ih others]

theorem mem_of_mapM_ok {α β : Type} {f : α → Except Fault β} {xs : List α} {ys : List β}
    (h : xs.mapM f = .ok ys) : ∀ y ∈ ys, ∃ x ∈ xs, f x = .ok y := by
  intro y member
  have made : .ok y ∈ xs.map f := by
    rw [map_of_mapM_ok h]
    exact List.mem_map_of_mem member
  exact List.mem_map.mp made

theorem mapM_map {α β γ : Type} (f : α → Except Fault β) (g : β → γ) (xs : List α) :
    (xs.mapM fun x => (f x).map g) = (xs.mapM f).map (List.map g) := by
  induction xs with
  | nil => rfl
  | cons x xs ih =>
    rw [List.mapM_cons, List.mapM_cons, ih]
    cases f x with
    | error fault => rfl
    | ok y => cases xs.mapM f <;> rfl

end FluentSql
