import FluentSql.Proofs.ReflectedTables

/-!
# The order of a table

Columns and indexes stand under their own names, once each and in the place
where the name first came, whatever is called on the table. An index is the
latest of its name, and a refused call leaves the table alone.
-/

set_option autoImplicit false

namespace FluentSql

namespace Keyed

variable {α : Type} {key : α → Value} {came : List String} {entries : List (Value × α)}

theorem lined_nil (key : α → Value) : Lined key [] [] :=
  ⟨rfl, by simp⟩

theorem Lined.replace (h : Lined key came entries) {k : Value} {x y : α}
    (found : Keyed.find? k entries = some x) (same : key y = key x) :
    Lined key came (Keyed.put (key y) y entries) := by
  obtain ⟨own, member, -⟩ := mem_of_find? found
  obtain ⟨name, before, text, -⟩ := h.find? member
  have named : key y = .text name := same.trans ((h.own _ member).trans text)
  exact (h.put named).again before

theorem latest_of_mem_putEach {added : List α} (texts : ∀ x ∈ added, ∃ s, key x = .text s) {x : α}
    (member : x ∈ (putEach key [] added).map Prod.snd) :
    ∃ before later, added = before ++ x :: later ∧ ∀ y ∈ later, key y ≠ key x := by
  obtain ⟨entry, there, rfl⟩ := List.mem_map.mp member
  have lined := (lined_nil key).putEach texts
  obtain ⟨name, -, text, found⟩ := lined.find? there
  rw [find?_putEach_text texts] at found
  -- The first of them from the end is the last of them.
  have last : (added.reverse.find? fun y => key y == .text name) = some entry.2 := by
    simpa [Keyed.find?] using found
  obtain ⟨-, later, before, parts, others⟩ := List.find?_eq_some_iff_append.mp last
  refine ⟨before.reverse, later.reverse, ?_, fun y among same => ?_⟩
  · simpa using congrArg List.reverse parts
  · have apart := others y (List.mem_reverse.mp among)
    rw [same, lined.own entry there, text, Value.text_beq_text] at apart
    simp at apart

end Keyed

theorem Index.build_name {table columns name : Value} {kind : Kind} {i : Index}
    (h : build table kind columns name = .ok i) (text : name.truthy = true → ∃ s, name = .text s) :
    ∃ s, i.name = .text s := by
  obtain ⟨listed, -, h⟩ := ok_of_bind_ok h
  dsimp only at h
  split at h
  · next own =>
    obtain rfl := Except.ok.inj h
    exact text own
  · obtain ⟨given, called, h⟩ := ok_of_bind_ok h
    obtain rfl := Except.ok.inj h
    obtain ⟨names, -, rfl⟩ := ok_of_map_ok called
    exact ⟨_, rfl⟩

namespace Table

/-! ## Names that are texts -/

/-- The names that a call gives to columns and indexes are texts. An index may be given none. -/
def Call.TakesTexts : Call → Prop
  | .id column _ => ∃ s, column.getD (.text "id") = .text s
  | .add draft => ∃ s, draft.name = .text s
  | .index _ _ name => name.truthy = true → ∃ s, name = .text s
  | .addColumn c => ∃ s, c.name = .text s
  | .addIndex i => ∃ s, i.name = .text s
  | _ => True

variable {call : Call}

theorem Call.TakesTexts.defines (texts : call.TakesTexts) : call.NamesTexts := by
  intro c member
  cases call with
  | id column type =>
    have name := idColumn_name (mem_toOption.mp member)
    rwa [name]
  | add draft =>
    have name := (draft_column (mem_toOption.mp member)).1
    rwa [name]
  | timestamps =>
    rcases List.mem_pair.mp member with rfl | rfl
    · exact ⟨_, rfl⟩
    · exact ⟨_, rfl⟩
  | softDeletes =>
    obtain rfl := List.mem_singleton.mp member
    exact ⟨_, rfl⟩
  | addColumn c =>
    obtain rfl := List.mem_singleton.mp member
    exact texts
  | _ => cases member

theorem Call.TakesTexts.declares (texts : call.TakesTexts) (table : Value) :
    ∀ i ∈ call.declares table, ∃ s, i.name = .text s := by
  intro i member
  cases call with
  | id column type =>
    obtain ⟨c, -, built⟩ := ok_of_bind_ok (mem_toOption.mp member)
    exact Index.build_name built fun own => by cases own
  | index kind columns name => exact Index.build_name (mem_toOption.mp member) texts
  | addIndex i =>
    obtain rfl := List.mem_singleton.mp member
    exact texts
  | _ => cases member

/-! ## Refused calls -/

theorem answered_refused {α : Type} {t t' : Table} {r : Except Fault (α × Table)}
    {answer : α → Answer} {fault : Fault} (h : t.answered r answer = (.error fault, t')) :
    t' = t := by
  cases r with
  | ok given => cases (Prod.mk.inj h).1
  | error refusal => exact (Prod.mk.inj h).2.symm

/-- The index of an id is never refused once its column is made, so nothing is done by halves. -/
theorem addId_refused {t t' : Table} {name type : Value} {fault : Fault}
    (text : ∃ s, name = .text s) (h : t.addId name type = (.error fault, t')) : t' = t := by
  obtain ⟨s, rfl⟩ := text
  unfold addId at h
  cases made : (type.upper.bind (idDraft (.text s))).bind t.add with
  | error refusal =>
    rw [made] at h
    exact (Prod.mk.inj h).2.symm
  | ok given =>
    obtain ⟨i, built⟩ := build_primary given.2.name s
    rw [made] at h
    simp only [addIndex, built, Except.map] at h
    cases (Prod.mk.inj h).1

theorem perform_refused {t t' : Table} {fault : Fault} (texts : call.TakesTexts)
    (h : t.perform call = (.error fault, t')) : t' = t := by
  cases call with
  | id column type =>
    -- The only call that could be refused between two things that it puts.
    rw [perform] at h
    cases done : t.addId (column.getD (.text "id")) (type.getD (.text "INT")) with
    | mk answer after =>
      rw [done] at h
      obtain ⟨refused, rfl⟩ := Prod.mk.inj h
      cases answer with
      | ok c => cases refused
      | error refusal => exact addId_refused texts done
  | add | index | change | drop | addColumn => exact answered_refused h
  | timestamps | softDeletes | addIndex | columnNames | indexNames | shown =>
    cases (Prod.mk.inj h).1
  | refused fault => exact (Prod.mk.inj h).2.symm

/-! ## Runs -/

variable {came names : List String}

theorem column_found {t : Table} {name : Value} {c : Column} (h : t.column name = .ok c) :
    Keyed.find? name t.columns = some c := by
  unfold column at h
  split at h
  · split at h
    · next found => rwa [← Except.ok.inj h]
    · cases h
  · cases h

theorem lined_after {t : Table} {step : Step} (h : Keyed.Lined Column.name came t.columns)
    (texts : step.call.TakesTexts) :
    Keyed.Lined Column.name (came ++ step.call.defines.map fun c => c.name.plain)
      (t.after step).columns := by
  have defines : Keyed.Lined Column.name (came ++ step.call.defines.map fun c => c.name.plain)
      (Keyed.putEach Column.name t.columns (step.call.defines.map step.follow)) := by
    have named : ∀ c ∈ step.call.defines.map step.follow, ∃ s, c.name = .text s := by
      simpa [Step.follow_name, Call.NamesTexts] using texts.defines
    simpa [Step.follow_name, Function.comp_def] using h.putEach named
  rw [after_eq texts.defines]
  obtain ⟨call, rest⟩ := step
  cases call with
  | change name =>
    dsimp only [putAll, Step.puts, Call.defines]
    rw [List.map_nil, List.append_nil]
    cases found : t.column name with
    | error fault => exact h
    | ok c => exact h.replace (column_found found) ((Step.follow_name _ _).trans c.changed_name)
  | drop name =>
    dsimp only [putAll, Step.puts, Call.defines]
    rw [List.map_nil, List.append_nil]
    cases found : t.column name with
    | error fault => exact h
    | ok c => exact h.replace (column_found found) rfl
  | _ => exact defines

theorem lined_afterAll {t : Table} {steps : List Step}
    (h : Keyed.Lined Column.name came t.columns) (texts : ∀ step ∈ steps, step.call.TakesTexts) :
    Keyed.Lined Column.name
      (came ++ (steps.flatMap fun step => step.call.defines).map fun c => c.name.plain)
      (t.afterAll steps).columns := by
  induction steps generalizing t came with
  | nil => simpa [afterAll] using h
  | cons step rest ih =>
    rw [List.forall_mem_cons] at texts
    have run := ih (lined_after h texts.1) texts.2
    rwa [List.append_assoc, ← List.map_append] at run

/-- Columns and indexes are under their own names, each name once and where it first came, and
indexes are the latest of their names. -/
structure InOrder (came : List String) (declared : List Index) (t : Table) : Prop where
  own : ∀ entry ∈ t.columns, entry.1 = entry.2.name
  columnNames : t.columnNames = came.eraseDups.map .text
  columnsApart : t.columnNames.Nodup
  indexNames : t.indexNames = (declared.map fun i => i.name.plain).eraseDups.map .text
  indexesApart : t.indexNames.Nodup
  latest : ∀ i ∈ t.indexList, ∃ before later, declared = before ++ i :: later ∧
    ∀ j ∈ later, j.name ≠ i.name

theorem inOrder_of_lined {t : Table} {declared : List Index}
    (columns : Keyed.Lined Column.name came t.columns)
    (indexes : t.indexes = Keyed.putEach Index.name [] declared)
    (texts : ∀ i ∈ declared, ∃ s, i.name = .text s) : t.InOrder came declared := by
  have lined := (Keyed.lined_nil Index.name).putEach texts
  rw [← indexes, List.nil_append] at lined
  have names : t.indexNames = t.indexes.map Prod.fst := by
    rw [indexNames, indexList, List.map_map]
    exact List.map_congr_left lined.own
  refine ⟨fun entry member => (columns.own entry member).symm, columns.keys, columns.distinct,
    names.trans lined.keys, names ▸ lined.distinct, fun i member => ?_⟩
  rw [indexList, indexes] at member
  exact Keyed.latest_of_mem_putEach texts member

/-- A run on a table that is empty or comes from a database keeps it in order, and a call that is
refused leaves it as it is. -/
theorem runs_stay_in_order {t : Table} (reflected : t.Reflected names) {steps : List Step}
    (texts : ∀ step ∈ steps, step.call.TakesTexts) :
    (t.afterAll steps).InOrder
        (names ++ (steps.flatMap fun step => step.call.defines).map fun c => c.name.plain)
        (steps.flatMap fun step => step.call.declares t.name) ∧
      ∀ call : Call, call.TakesTexts → ∀ fault t',
        (t.afterAll steps).perform call = (.error fault, t') → t' = t.afterAll steps := by
  refine ⟨?_, fun call named fault t' refused => perform_refused named refused⟩
  have indexes := afterAll_indexes (t := t) fun step ran => (texts step ran).defines
  rw [reflected.bare] at indexes
  refine inOrder_of_lined (lined_afterAll ?_ texts) indexes fun i member => ?_
  · exact reflected.lined
  · obtain ⟨step, ran, declared⟩ := List.mem_flatMap.mp member
    exact (texts step ran).declares t.name i declared

def visits : Table where
  name := .text "visits"
  columns := [
    (.text "page", {
      name := .text "page", type := .text "VARCHAR", state := .unchanged
      family := .string (.int 80) }),
    (.text "day", {
      name := .text "day", type := .text "DATE", state := .unchanged
      family := .dateTime (.bool false) (.int 0) })]

/-- An index declared again under its name, a column dropped and one defined anew, and between
them an index on no columns and a column that is not there. -/
def visitSteps : List Step :=
  [{ call := .index .normal (.text "page") .null },
    { call := .index .unique (.text "page, day") (.text "by_day") },
    { call := .drop (.text "page") },
    { call := .index .normal (.int 1) .null },
    { call := .text (.text "agent") none, rest := [⟨.shown, .nullable none⟩] },
    { call := .index .primary (.text "day") (.text "visits_page_normal") },
    { call := .change (.text "reader") },
    { call := .date (.text "day") }]

theorem visits_stay_in_order :
    visits.Reflected ["page", "day"] ∧ (∀ step ∈ visitSteps, step.call.TakesTexts) ∧
      (visits.afterAll visitSteps).columnNames = [.text "page", .text "day", .text "agent"] ∧
      (visits.afterAll visitSteps).indexNames =
        [.text "visits_page_normal", .text "by_day"] ∧
      (visits.afterAll visitSteps).indexList.map Index.kind = [.primary, .unique] ∧
      ((visits.afterAll visitSteps).perform (.id none (some (.text "DATE")))).2 =
        visits.afterAll visitSteps := by
  have reflected : visits.Reflected ["page", "day"] :=
    ⟨rfl, by decide, by simp [visits], by simp [visits], by simp [visits], rfl⟩
  have texts : ∀ step ∈ visitSteps, step.call.TakesTexts := by
    simp [visitSteps, Call.TakesTexts, Call.text, Call.date, Call.dateTime, Value.truthy]
  obtain ⟨ordered, untouched⟩ := runs_stay_in_order reflected texts
  refine ⟨reflected, texts, ordered.columnNames, ordered.indexNames, rfl, ?_⟩
  exact untouched (.id none (some (.text "DATE"))) ⟨_, rfl⟩ (.schema (.idType (.text "DATE"))) _ rfl

end Table

end FluentSql
