import FluentSql.Proofs.ReflectedTables
import FluentSql.Proofs.TableScripts
import FluentSql.Schema.Builder

/-!
# Alterations told from histories

The script that alters a table of a database has a statement for the columns to
add, one for those to redefine and one for those to drop. After a run of steps,
the history of a name says which of them its column is in, if any. The
lifecycle state records that history and no more: whether the database has a
column of the name it does not always know.
-/

set_option autoImplicit false

namespace FluentSql

/-! ## Clauses -/

namespace Dialect

variable {c : Column}

theorem text_of_map {text : Except Fault String} {type : Value}
    (h : text.map Value.text = .ok type) : ∃ s, type = .text s := by
  obtain ⟨s, -, rfl⟩ := ok_of_map_ok h
  exact ⟨s, rfl⟩

theorem text_of_mysqlType {name : String} (typed : c.type = .text name) {type : Value}
    (h : mysqlType c = .ok type) : ∃ s, type = .text s := by
  unfold mysqlType at h
  rw [typed] at h
  cases kind : c.family with
  | plain | text | enumeration =>
    rw [kind] at h
    exact ⟨_, (Except.ok.inj h).symm⟩
  | integer length isUnsigned increments =>
    rw [kind] at h
    obtain ⟨s, -, rfl⟩ := ok_of_map_ok h
    exact ⟨_, rfl⟩
  | string length =>
    rw [kind] at h
    exact text_of_map h
  | dateTime onUpdate precision =>
    rw [kind] at h
    dsimp only at h
    split at h
    · exact text_of_map h
    · exact ⟨name, (Except.ok.inj h).symm⟩

theorem text_of_postgresqlType {name : String} (typed : c.type = .text name) {type : Value}
    (h : postgresqlType c = .ok type) : ∃ s, type = .text s := by
  unfold postgresqlType at h
  rw [typed] at h
  cases kind : c.family with
  | plain | text | enumeration =>
    rw [kind] at h
    exact ⟨_, (Except.ok.inj h).symm⟩
  | integer length isUnsigned increments =>
    rw [kind] at h
    obtain rfl := Except.ok.inj h
    dsimp only [renamed]
    split <;> exact ⟨_, rfl⟩
  | string length =>
    rw [kind] at h
    exact text_of_map h
  | dateTime onUpdate precision =>
    rw [kind] at h
    dsimp only [renamed] at h
    split at h
    · exact text_of_map h
    · exact ⟨_, (Except.ok.inj h).symm⟩

theorem columnType_text (d : Dialect) (typed : ∃ type, c.type = .text type) {type : Value}
    (h : d.columnType c = .ok type) : ∃ s, type = .text s := by
  obtain ⟨name, typed⟩ := typed
  cases d with
  | mysql => exact text_of_mysqlType typed h
  | postgresql => exact text_of_postgresqlType typed h

theorem alteredType_ok_iff :
    (∃ type, alteredType c = .ok type) ↔ ∃ type, postgresql.columnType c = .ok type := by
  change _ ↔ ∃ type, postgresqlType c = .ok type
  unfold alteredType
  cases kind : c.family with
  | integer length isUnsigned increments =>
    unfold postgresqlType
    rw [kind]
    exact iff_of_true ⟨_, rfl⟩ ⟨_, rfl⟩
  | _ => exact Iff.rfl

def clauses (d : Dialect) (state : Column.State) (c : Column) : Except Fault (List String) :=
  match state with
  | .unchanged => .ok []
  | .new => (d.columnDefinition c).map fun definition => ["ADD COLUMN " ++ definition]
  | .modified => d.modifyClauses c
  | .deleted => .ok ["DROP COLUMN " ++ c.name.plain]

def verb (d : Dialect) : Column.State → String
  | .unchanged => ""
  | .new => "ADD COLUMN "
  | .modified =>
    match d with
    | mysql => "MODIFY COLUMN "
    | postgresql => "ALTER COLUMN "
  | .deleted => "DROP COLUMN "

theorem columnDefinition_named (d : Dialect) (named : ∃ s, c.name = .text s)
    (typed : ∃ type, c.type = .text type) {type : Value} (written : d.columnType c = .ok type) :
    ∃ rest, d.columnDefinition c = .ok (c.name.plain ++ rest) := by
  obtain ⟨name, named⟩ := named
  obtain ⟨type, rfl⟩ := d.columnType_text typed written
  let parts := [type, nullability c, d.defaultClause c, d.extra c].filter fun s => !s.isEmpty
  have definition : d.columnDefinition c =
      .ok (" ".intercalate ([name].filter (fun s => !s.isEmpty) ++ parts)) := by
    rw [columnDefinition, named, written, ← List.filter_append]
    exact spacedWords_texts [name, type, nullability c, d.defaultClause c, d.extra c]
  rw [definition, named, show (Value.text name).plain = name from rfl]
  by_cases empty : name = ""
  · exact ⟨" ".intercalate parts, by simp [empty]⟩
  · rw [List.filter_cons_of_pos (by simpa using empty), List.filter_nil]
    cases parts with
    | nil => exact ⟨"", by simp⟩
    | cons part rest =>
      exact ⟨" " ++ " ".intercalate (part :: rest), by
        rw [List.singleton_append, String.intercalate_cons_cons, String.append_assoc]⟩

theorem columnDefinition_ok_iff (d : Dialect) (named : ∃ s, c.name = .text s)
    (typed : ∃ type, c.type = .text type) :
    (∃ s, d.columnDefinition c = .ok s) ↔ ∃ type, d.columnType c = .ok type := by
  constructor
  · rintro ⟨s, written⟩
    obtain ⟨type, written, -⟩ := ok_of_bind_ok written
    exact ⟨type, written⟩
  · rintro ⟨type, written⟩
    obtain ⟨rest, written⟩ := d.columnDefinition_named named typed written
    exact ⟨_, written⟩

theorem clauses_ok_iff (d : Dialect) (state : Column.State) (named : ∃ s, c.name = .text s)
    (typed : ∃ type, c.type = .text type) :
    (∃ written, d.clauses state c = .ok written) ↔
      (state = .new ∨ state = .modified → ∃ type, d.columnType c = .ok type) := by
  have mapped {α : Type} {r : Except Fault α} {f : α → List String} :
      (∃ written, r.map f = .ok written) ↔ ∃ x, r = .ok x := by
    cases r <;> simp [Except.map]
  cases state with
  | unchanged => exact iff_of_true ⟨_, rfl⟩ (by simp)
  | deleted => exact iff_of_true ⟨_, rfl⟩ (by simp)
  | new =>
    rw [forall_prop_of_true (.inl rfl), ← d.columnDefinition_ok_iff named typed]
    exact mapped
  | modified =>
    rw [forall_prop_of_true (.inr rfl)]
    cases d with
    | mysql =>
      rw [← mysql.columnDefinition_ok_iff named typed]
      exact mapped
    | postgresql =>
      rw [← alteredType_ok_iff]
      exact mapped

theorem clauses_named (d : Dialect) {state : Column.State} (pending : state ≠ .unchanged)
    (named : ∃ s, c.name = .text s) (typed : ∃ type, c.type = .text type) {written : List String}
    (done : d.clauses state c = .ok written) :
    written ≠ [] ∧ ∀ clause ∈ written, ∃ rest, clause = d.verb state ++ c.name.plain ++ rest := by
  have defined {definition : String} (made : d.columnDefinition c = .ok definition) :
      ∃ rest, definition = c.name.plain ++ rest := by
    obtain ⟨type, there⟩ := (d.columnDefinition_ok_iff named typed).mp ⟨definition, made⟩
    obtain ⟨rest, again⟩ := d.columnDefinition_named named typed there
    exact ⟨rest, Except.ok.inj (made.symm.trans again)⟩
  cases state with
  | unchanged => exact absurd rfl pending
  | new =>
    obtain ⟨definition, made, rfl⟩ := ok_of_map_ok done
    obtain ⟨rest, rfl⟩ := defined made
    exact ⟨by simp, by simpa using ⟨rest, String.append_assoc.symm⟩⟩
  | deleted =>
    obtain rfl := Except.ok.inj done
    exact ⟨by simp, by simpa using ⟨"", by simp [verb]⟩⟩
  | modified =>
    cases d with
    | mysql =>
      obtain ⟨definition, made, rfl⟩ := ok_of_map_ok done
      obtain ⟨rest, rfl⟩ := defined made
      exact ⟨by simp, by simpa using ⟨rest, String.append_assoc.symm⟩⟩
    | postgresql =>
      obtain ⟨type, -, rfl⟩ := ok_of_map_ok done
      refine ⟨by simp, ?_⟩
      intro clause member
      rcases List.mem_append.mp member with always | default
      · rcases List.mem_pair.mp always with rfl | rfl
        · exact ⟨" TYPE " ++ type.plain, by simp [verb, String.append_assoc]⟩
        · exact ⟨" " ++ if c.nullable.truthy then "DROP NOT NULL" else "SET NOT NULL",
            by simp [verb, String.append_assoc]⟩
      · split at default
        · cases default
        · obtain rfl := List.mem_singleton.mp default
          exact ⟨" SET " ++ postgresql.defaultClause c, by simp [verb, String.append_assoc]⟩

end Dialect

namespace Table

variable {names : List String}

/-- The names of the columns in a state, each with the clauses on its column. -/
def written (d : Dialect) (t : Table) (state : Column.State) : List (String × List String) :=
  (t.columnsIn state).map fun c => (c.name.plain, (d.clauses state c).toOption.getD [])

/-- The statement with the clauses on columns, or none without columns. -/
def alteration (t : Table) (written : List (String × List String)) : List String :=
  match written with
  | [] => []
  | columns =>
    ["ALTER TABLE " ++ t.name.plain ++ " " ++ ", ".intercalate (columns.flatMap Prod.snd) ++ ";"]

/-- At most one statement for the columns to add, one for those to redefine and one for those to
drop. -/
def alterations (d : Dialect) (t : Table) : List String :=
  t.alteration (t.written d .new) ++ t.alteration (t.written d .modified) ++
    t.alteration (t.written d .deleted)

theorem alteration_ne_empty {t : Table} {written : List (String × List String)} {s : String}
    (member : s ∈ t.alteration written) : s ≠ "" := by
  unfold alteration at member
  split at member
  · cases member
  · obtain rfl := List.mem_singleton.mp member
    intro empty
    have characters := congrArg String.toList empty
    simp at characters

theorem alterations_ne_empty {d : Dialect} {t : Table} {s : String}
    (member : s ∈ t.alterations d) : s ≠ "" := by
  simp only [alterations, List.mem_append] at member
  rcases member with (member | member) | member <;> exact alteration_ne_empty member

theorem alterColumns_written {t : Table} {d : Dialect} {state : Column.State}
    (ok : ∀ c ∈ t.columnsIn state, ∃ written, d.clauses state c = .ok written) :
    ∃ s, t.alterColumns state (d.clauses state) = .ok s ∧
      [s].filter (fun s => !s.isEmpty) = t.alteration (t.written d state) := by
  have run : (t.columnsIn state).mapM (d.clauses state) =
      .ok ((t.written d state).map Prod.snd) := by
    rw [written, List.map_map]
    apply mapM_eq
    intro c member
    obtain ⟨written, done⟩ := ok c member
    simp [done, Except.toOption]
  unfold alterColumns
  cases columns : t.columnsIn state with
  | nil => exact ⟨"", rfl, by simp [written, columns, alteration]⟩
  | cons c rest =>
    have one : t.alteration (t.written d state) =
        [t.alterStatement ((t.written d state).map Prod.snd).flatten] := by
      simp [written, columns, alteration, alterStatement, List.flatMap]
    have nonempty : t.alterStatement ((t.written d state).map Prod.snd).flatten ≠ "" :=
      alteration_ne_empty (one ▸ List.mem_singleton_self _)
    rw [columns] at run
    refine ⟨t.alterStatement ((t.written d state).map Prod.snd).flatten, ?_, ?_⟩
    · dsimp only
      rw [run]
      rfl
    · rw [one]
      exact List.filter_cons_of_pos (by simpa using nonempty)

theorem clauses_of_alterColumns {t : Table} {state : Column.State}
    {clauses : Column → Except Fault (List String)} {s : String}
    (done : t.alterColumns state clauses = .ok s) :
    ∀ c ∈ t.columnsIn state, ∃ written, clauses c = .ok written := by
  unfold alterColumns at done
  split at done
  · next none => simp [none]
  · obtain ⟨parts, run, -⟩ := ok_of_map_ok done
    intro c member
    have made : clauses c ∈ parts.map Except.ok := by
      rw [← map_of_mapM_ok run]
      exact List.mem_map_of_mem member
    obtain ⟨written, -, done⟩ := List.mem_map.mp made
    exact ⟨written, done.symm⟩

theorem clauses_of_alterStatements {t : Table} {d : Dialect} {changes : List String}
    (done : t.alterStatements d = .ok changes) (state : Column.State) :
    ∀ c ∈ t.columnsIn state, ∃ written, d.clauses state c = .ok written := by
  obtain ⟨add, added, done⟩ := ok_of_bind_ok done
  obtain ⟨modify, modified, done⟩ := ok_of_bind_ok done
  obtain ⟨drop, dropped, -⟩ := ok_of_bind_ok done
  cases state with
  | unchanged => exact fun _ _ => ⟨[], rfl⟩
  | new => exact clauses_of_alterColumns added
  | modified => exact clauses_of_alterColumns modified
  | deleted => exact clauses_of_alterColumns dropped

theorem alterStatements_eq {t : Table} {d : Dialect}
    (ok : ∀ state, ∀ c ∈ t.columnsIn state, ∃ written, d.clauses state c = .ok written) :
    t.alterStatements d = .ok (t.alterations d) := by
  obtain ⟨add, added, adds⟩ := alterColumns_written (ok .new)
  obtain ⟨modify, modified, modifies⟩ := alterColumns_written (ok .modified)
  obtain ⟨drop, dropped, drops⟩ := alterColumns_written (ok .deleted)
  have addStatement : t.addStatement d = .ok add := added
  have modifyStatement : t.modifyStatement d = .ok modify := modified
  have dropStatement : t.dropStatement = .ok drop := dropped
  rw [alterStatements, addStatement, modifyStatement, dropStatement, alterations, ← adds,
    ← modifies, ← drops, ← List.filter_append, ← List.filter_append]
  rfl

theorem alteration_eq_nil {t : Table} {written : List (String × List String)} :
    t.alteration written = [] ↔ written = [] := by
  unfold alteration
  split <;> simp_all

theorem alterations_eq_nil {d : Dialect} {t : Table} :
    t.alterations d = [] ↔ ∀ state, state ≠ .unchanged → t.written d state = [] := by
  simp only [alterations, List.append_eq_nil_iff, alteration_eq_nil]
  constructor
  · rintro ⟨⟨new, modified⟩, deleted⟩ state pending
    cases state with
    | unchanged => exact absurd rfl pending
    | new => exact new
    | modified => exact modified
    | deleted => exact deleted
  · intro none
    exact ⟨⟨none _ (by decide), none _ (by decide)⟩, none _ (by decide)⟩

theorem script_eq_empty {statements : List String} (nonempty : ∀ s ∈ statements, s ≠ "") :
    script statements = "" ↔ statements = [] := by
  cases statements with
  | nil => simp [script]
  | cons first rest =>
    have first : first.toList ≠ [] := by simpa using nonempty first List.mem_cons_self
    cases rest with
    | nil => simpa [script] using first
    | cons next rest => simp [script, String.intercalate_cons_cons]

/-! ## Indexes of a run -/

theorem definition_text {i : Index} (texts : ∃ names : List String, i.columns = names.map .text) :
    ∃ s, i.definition = .ok s := by
  obtain ⟨names, texts⟩ := texts
  rw [Index.definition, Index.columnText, texts, Value.texts_map_text]
  exact ⟨_, rfl⟩

theorem Reflected.definitions {t : Table} (reflected : t.Reflected names) {steps : List Step}
    (plain : ∀ step ∈ steps, step.IsPlain) :
    ∃ definitions : List String,
      (t.afterAll steps).indexList.map Index.definition = definitions.map .ok ∧
      (t.afterAll steps).indexStatements = .ok (definitions.map (· ++ ";")) ∧
      (definitions = [] ↔ ∀ step ∈ steps, step.call.declares t.name = []) := by
  have all := afterAll_indexes (t := t) fun step ran => (plain step ran).named
  rw [reflected.bare] at all
  have texts : ∀ i ∈ (t.afterAll steps).indexList, ∃ s, i.definition = .ok s := by
    intro i listed
    obtain ⟨entry, member, rfl⟩ := List.mem_map.mp listed
    rw [all] at member
    have declared := (Keyed.mem_putEach member).resolve_left List.not_mem_nil
    obtain ⟨step, ran, declared⟩ := List.mem_flatMap.mp declared
    exact definition_text ((plain step ran).indexed t.name entry.2 declared)
  obtain ⟨definitions, written⟩ := mapM_done texts
  obtain ⟨listed, statements⟩ := indexStatements_eq written
  refine ⟨definitions, listed, statements, ?_⟩
  have length : (t.afterAll steps).indexList.length = definitions.length := by
    simpa using congrArg List.length listed
  rw [← List.length_eq_zero_iff, ← length, List.length_eq_zero_iff, indexList,
    List.map_eq_nil_iff, all, Keyed.putEach_eq_nil, List.flatMap_eq_nil_iff]
  simp

/-! ## The script of a run -/

theorem Reflected.written_names (d : Dialect) {t : Table} (reflected : t.Reflected names)
    {steps : List Step} (plain : ∀ step ∈ steps, step.IsPlain) (state : Column.State) :
    ((t.afterAll steps).written d state).map Prod.fst =
      (Event.entered names (eventsOf steps)).filter fun name =>
        Event.fate (history steps name) = state := by
  have outline := (reflected.tracks_afterAll plain).outline
  calc ((t.afterAll steps).written d state).map Prod.fst
      = (((t.afterAll steps).columns.map fun entry => (entry.2.name, entry.2.state)).filter
          fun told => told.2 = state).map fun told => told.1.plain := by
        rw [written, columnsIn, columnList]
        simp [List.filter_map, Function.comp_def]
    _ = _ := by
        rw [outline, List.filter_map, List.map_map]
        exact List.map_id _

theorem Reflected.texts {t : Table} (reflected : t.Reflected names) {steps : List Step}
    (plain : ∀ step ∈ steps, step.IsPlain) {c : Column}
    (among : c ∈ (t.afterAll steps).columnList) :
    (∃ s, c.name = .text s) ∧ ∃ type, c.type = .text type := by
  have tracked := reflected.tracks_afterAll plain
  obtain ⟨entry, member, rfl⟩ := List.mem_map.mp among
  obtain ⟨name, -, text, -⟩ := tracked.fate_of_mem member
  exact ⟨⟨name, (tracked.named entry member).trans text⟩, tracked.typed entry member⟩

theorem mem_columnsIn {t : Table} {state : Column.State} {c : Column} :
    c ∈ t.columnsIn state ↔ c ∈ t.columnList ∧ c.state = state := by
  simp [columnsIn]

theorem Reflected.alterScript_ok_iff (d : Dialect) {t : Table} (reflected : t.Reflected names)
    {steps : List Step} (plain : ∀ step ∈ steps, step.IsPlain) :
    (∃ script, (t.afterAll steps).alterScript d = .ok script) ↔
      ∀ c ∈ (t.afterAll steps).columnList, c.state = .new ∨ c.state = .modified →
        ∃ type, d.columnType c = .ok type := by
  have typed (c : Column) (among : c ∈ (t.afterAll steps).columnList) :
      (∃ written, d.clauses c.state c = .ok written) ↔
        (c.state = .new ∨ c.state = .modified → ∃ type, d.columnType c = .ok type) :=
    have texts := reflected.texts plain among
    d.clauses_ok_iff c.state texts.1 texts.2
  obtain ⟨definitions, -, indexes, -⟩ := reflected.definitions plain
  constructor
  · rintro ⟨script, done⟩ c among
    obtain ⟨changes, changed, -⟩ := ok_of_bind_ok done
    exact (typed c among).mp
      (clauses_of_alterStatements changed c.state c (mem_columnsIn.mpr ⟨among, rfl⟩))
  · intro types
    have changes : (t.afterAll steps).alterStatements d =
        .ok ((t.afterAll steps).alterations d) := by
      apply alterStatements_eq
      intro state c member
      obtain ⟨among, rfl⟩ := mem_columnsIn.mp member
      exact (typed c among).mpr (types c among)
    rw [alterScript, changes, indexes]
    exact ⟨_, rfl⟩

theorem alterScript_eq {t : Table} {d : Dialect} {indexes : List String} {written : String}
    (declared : t.indexStatements = .ok indexes) (done : t.alterScript d = .ok written) :
    written = script (t.alterations d ++ indexes) := by
  obtain ⟨changes, changed, done⟩ := ok_of_bind_ok done
  rw [alterStatements_eq fun state => clauses_of_alterStatements changed state] at changed
  obtain rfl := Except.ok.inj changed
  obtain ⟨again, declared', done⟩ := ok_of_bind_ok done
  obtain rfl := Except.ok.inj (declared.symm.trans declared')
  exact (Except.ok.inj done).symm

theorem Reflected.clauses (d : Dialect) {t : Table} (reflected : t.Reflected names)
    {steps : List Step} (plain : ∀ step ∈ steps, step.IsPlain) {script : String}
    (done : (t.afterAll steps).alterScript d = .ok script) {state : Column.State}
    (pending : state ≠ .unchanged) {entry : String × List String}
    (among : entry ∈ (t.afterAll steps).written d state) :
    entry.2 ≠ [] ∧ ∀ clause ∈ entry.2, ∃ rest, clause = d.verb state ++ entry.1 ++ rest := by
  obtain ⟨changes, changed, -⟩ := ok_of_bind_ok done
  obtain ⟨c, member, rfl⟩ := List.mem_map.mp among
  obtain ⟨clauses, written⟩ := clauses_of_alterStatements changed state c member
  obtain ⟨named, typed⟩ := reflected.texts plain (mem_columnsIn.mp member).1
  simpa [written, Except.toOption] using d.clauses_named pending named typed written

theorem Reflected.alterations_eq_nil (d : Dialect) {t : Table} (reflected : t.Reflected names)
    {steps : List Step} (plain : ∀ step ∈ steps, step.IsPlain) :
    (t.afterAll steps).alterations d = [] ↔
      ∀ name ∈ Event.entered names (eventsOf steps),
        Event.fate (history steps name) = .unchanged := by
  have none (state : Column.State) : (t.afterAll steps).written d state = [] ↔
      ∀ name ∈ Event.entered names (eventsOf steps), Event.fate (history steps name) ≠ state := by
    rw [← List.map_eq_nil_iff, reflected.written_names d plain, List.filter_eq_nil_iff]
    simp
  simp only [Table.alterations_eq_nil, none]
  constructor
  · intro others name entered
    by_contra pending
    exact others _ pending name entered rfl
  · intro unchanged state pending name entered
    rw [unchanged name entered]
    exact pending.symm

/-- The script that alters a table of a database after steps on it, told from the histories of its
columns. -/
structure ToldByHistories (d : Dialect) (t : Table) (names : List String) (steps : List Step) :
    Prop where
  unknown : ∀ name, (t.afterAll steps).column (.text name) =
      .error (.schema (.unknownColumn name t.name.plain)) ↔
    name ∉ Event.entered names (eventsOf steps)
  /-- A name is in the statement of the state that its history leaves it in, with the names in the
  order in which they entered the table. -/
  named : ∀ state, ((t.afterAll steps).written d state).map Prod.fst =
    (Event.entered names (eventsOf steps)).filter fun name =>
      Event.fate (history steps name) = state
  compiles : (∃ script, (t.afterAll steps).alterScript d = .ok script) ↔
    ∀ c ∈ (t.afterAll steps).columnList, c.state = .new ∨ c.state = .modified →
      ∃ type, d.columnType c = .ok type
  clauses : ∀ script, (t.afterAll steps).alterScript d = .ok script → ∀ state, state ≠ .unchanged →
    ∀ entry ∈ (t.afterAll steps).written d state,
      entry.2 ≠ [] ∧ ∀ clause ∈ entry.2, ∃ rest, clause = d.verb state ++ entry.1 ++ rest
  text : ∀ script, (t.afterAll steps).alterScript d = .ok script → ∃ definitions : List String,
    (t.afterAll steps).indexList.map Index.definition = definitions.map .ok ∧
    script = "\n".intercalate
      (([.new, .modified, .deleted] : List Column.State).flatMap (fun state =>
        match (t.afterAll steps).written d state with
        | [] => []
        | columns =>
          ["ALTER TABLE " ++ t.name.plain ++ " " ++
            ", ".intercalate (columns.flatMap Prod.snd) ++ ";"]) ++
        definitions.map (· ++ ";"))
  empty : ∀ script, (t.afterAll steps).alterScript d = .ok script →
    (script = "" ↔
      (∀ name ∈ Event.entered names (eventsOf steps),
        Event.fate (history steps name) = .unchanged) ∧
      ∀ step ∈ steps, step.call.declares t.name = [])
  /-- What else was done to a column before its last definition, and in which order, and how often
  it was changed or dropped since, makes no difference. -/
  alike : ∀ steps', (∀ step ∈ steps', step.IsPlain) → others steps = others steps' →
    (∀ name ∈ Event.entered names (eventsOf steps), ∀ e,
      e ∈ Event.sinceDefined (history steps name) ↔
        e ∈ Event.sinceDefined (history steps' name)) →
    (t.afterAll steps').alterScript d = (t.afterAll steps).alterScript d
  reordered : ∀ before marks marks' later, steps = before ++ marks ++ later →
    (∀ step ∈ marks, step.isLifecycle = true) → (∀ step, step ∈ marks ↔ step ∈ marks') →
    (t.afterAll (before ++ marks' ++ later)).alterScript d = (t.afterAll steps).alterScript d

theorem alterScript_of_histories (d : Dialect) {t : Table} {names : List String}
    (reflected : t.Reflected names) {steps : List Step} (plain : ∀ step ∈ steps, step.IsPlain) :
    ToldByHistories d t names steps := by
  obtain ⟨definitions, listed, written, none⟩ := reflected.definitions plain
  have name : (t.afterAll steps).name = t.name :=
    afterAll_name fun step ran => (plain step ran).named
  exact {
    unknown := reflected.column_unknown plain
    named := reflected.written_names d plain
    compiles := reflected.alterScript_ok_iff d plain
    clauses := fun script done state pending entry among =>
      reflected.clauses d plain done pending among
    text := by
      intro script done
      refine ⟨definitions, listed, ?_⟩
      rw [alterScript_eq written done, Table.script, alterations]
      simp only [alteration, name, List.flatMap_cons, List.flatMap_nil, List.append_nil,
        List.append_assoc]
    empty := by
      intro script done
      have all : ∀ s ∈ (t.afterAll steps).alterations d ++ definitions.map (· ++ ";"), s ≠ "" := by
        intro s member
        rcases List.mem_append.mp member with change | index
        · exact alterations_ne_empty change
        · obtain ⟨definition, -, rfl⟩ := List.mem_map.mp index
          exact fun empty => by simpa using congrArg String.toList empty
      rw [alterScript_eq written done, script_eq_empty all, List.append_eq_nil_iff,
        List.map_eq_nil_iff, reflected.alterations_eq_nil d plain, none]
    alike := fun steps' plain' same marks => by
      rw [afterAll_alike reflected plain plain' same marks]
    reordered := by
      rintro before marks marks' later rfl lifecycle same
      have plain' : ∀ step ∈ before ++ marks' ++ later, step.IsPlain := by
        simpa [← same] using plain
      rw [afterAll_alike reflected plain plain' (others_alike lifecycle same)
        fun name _ e => marks_alike lifecycle same name e] }

def users : Table where
  name := .text "users"
  columns := [
    (.text "id", {
      name := .text "id", type := .text "INT", nullable := .bool false, state := .unchanged
      family := .integer (.int 11) (.bool false) (.bool true) }),
    (.text "email", {
      name := .text "email", type := .text "VARCHAR", state := .unchanged
      family := .string (.int 80) }),
    (.text "note", {
      name := .text "note", type := .text "TEXT", state := .unchanged, family := .text })]

theorem users_reflected : users.Reflected ["id", "email", "note"] where
  keys := rfl
  distinct := by decide
  named := by simp [users]
  typed := by simp [users]
  unchanged := by simp [users]
  bare := rfl

/-- A column defined anew, one dropped and then defined, one changed and dropped, one added, and
one that is not there. -/
def userSteps : List Step :=
  [{ call := .string (.text "email") none none
     rest := [{ onTable := .shown, onColumn := .nullable (some (.bool false)) }] },
   { call := .change (.text "note") },
   { call := .change (.text "phone") },
   { call := .drop (.text "note") },
   { call := .drop (.text "id") },
   { call := .id none none },
   { call := .integer (.text "age") none },
   { call := .change (.text "id") },
   { call := .index .unique (.text "email") .null }]

theorem userSteps_plain : ∀ step ∈ userSteps, step.IsPlain := by
  simp only [userSteps, List.forall_mem_cons]
  refine ⟨?_, ?_, ?_, ?_, ?_, ?_, ?_, ?_, ?_, by simp⟩
  · exact Step.isPlain_add ⟨_, rfl⟩ ⟨_, rfl⟩ rfl (by simp [Column.Call.isLifecycle])
  · exact Step.isPlain_mark (.inl rfl) (by simp)
  · exact Step.isPlain_mark (.inl rfl) (by simp)
  · exact Step.isPlain_mark (.inr rfl) (by simp)
  · exact Step.isPlain_mark (.inr rfl) (by simp)
  · exact Step.isPlain_id ⟨_, rfl⟩ (by simp)
  · exact Step.isPlain_add ⟨_, rfl⟩ ⟨_, rfl⟩ rfl (by simp)
  · exact Step.isPlain_mark (.inl rfl) (by simp)
  · exact Step.isPlain_index (columnList_text _) (by simp)

theorem users_altered :
    users.Reflected ["id", "email", "note"] ∧ (∀ step ∈ userSteps, step.IsPlain) ∧
      ToldByHistories .mysql users ["id", "email", "note"] userSteps ∧
      ((users.afterAll userSteps).written .mysql .new).map Prod.fst = ["email", "age"] ∧
      ((users.afterAll userSteps).written .mysql .modified).map Prod.fst = ["id"] ∧
      ((users.afterAll userSteps).written .mysql .deleted).map Prod.fst = ["note"] ∧
      (users.afterAll userSteps).alterScript .mysql = .ok (
        "ALTER TABLE users ADD COLUMN email VARCHAR(255) NOT NULL, ADD COLUMN age INT(11) NULL;\n" ++
        "ALTER TABLE users MODIFY COLUMN id INT(11) NOT NULL AUTO_INCREMENT;\n" ++
        "ALTER TABLE users DROP COLUMN note;\n" ++
        "ALTER TABLE users ADD PRIMARY KEY (id);\n" ++
        "CREATE UNIQUE INDEX users_email_unique ON users (email);") := by
  have told := alterScript_of_histories .mysql users_reflected userSteps_plain
  refine ⟨users_reflected, userSteps_plain, told, ?_, ?_, ?_, ?_⟩
  · rw [told.named]
    decide +kernel
  · rw [told.named]
    decide +kernel
  · rw [told.named]
    decide +kernel
  · exact mem_toOption.mp (by decide +kernel)

/-! ## The script that a builder gives back -/

theorem described_eq {t u : Table} {steps : List Step}
    (h : SchemaBuilder.described t steps = .ok u) : u = t.afterAll steps := by
  unfold SchemaBuilder.described at h
  split at h
  · next performed =>
    obtain rfl := Except.ok.inj h
    exact performAll_eq_afterAll performed
  · cases h

theorem executeReporting_script {b : SchemaBuilder} {s s' : Session}
    {compiled message script : String}
    (h : b.executeReporting s compiled message = (.ok script, s')) : compiled = script := by
  unfold SchemaBuilder.executeReporting andThen at h
  split at h
  · exact Except.ok.inj (Prod.mk.inj h).1
  · cases (Prod.mk.inj h).1

theorem alter_script {b : SchemaBuilder} {s s' : Session} {name : Value} {script : String}
    {steps : List Step}
    (named : ∀ entry ∈ b.catalog.tables, ∀ column ∈ entry.2, ∃ text,
      column.name = some (.text text))
    (done : b.alter s name steps = (.ok script, s')) :
    ∃ (t : Table) (names : List String), t.Reflected names ∧
      (t.afterAll steps).alterScript b.dialect = .ok script := by
  unfold SchemaBuilder.alter andThen at done
  split at done
  · next t after loaded =>
    obtain ⟨names, reflected⟩ := load_reflected named loaded
    dsimp only at done
    split at done
    · cases (Prod.mk.inj done).1
    · next compiled written =>
      obtain ⟨u, described, written⟩ := ok_of_bind_ok written
      rw [described_eq described] at written
      refine ⟨t, names, reflected, written.trans (congrArg Except.ok ?_)⟩
      split at done
      · exact Except.ok.inj (Prod.mk.inj done).1
      · exact executeReporting_script done
  · cases (Prod.mk.inj done).1

/-! ## What the database has -/

/-- The columns that count as there are those of the database. -/
def KnowsDatabase (names : List String) (steps : List Step) : Prop :=
  ∀ name ∈ Event.entered names (eventsOf steps),
    Event.fate (history steps name) ≠ .new ↔ name ∈ names

/-- A column that was never defined counts as there, and so does one that was changed or dropped
after it was defined, whether the database has it or not. -/
theorem knowsDatabase_iff {names : List String} {steps : List Step} :
    KnowsDatabase names steps ↔
      ∀ name ∈ Event.entered names (eventsOf steps), .defined ∈ history steps name →
        (Event.sinceDefined (history steps name) ≠ [] ↔ name ∈ names) := by
  refine forall₂_congr fun name entered => ?_
  rw [Ne, Event.fate_eq_new]
  by_cases new : .defined ∈ history steps name
  · simp [new]
  · have there : name ∈ names := ((Event.mem_entered _ _ _).mp entered).resolve_right new
    simp [new, there]

theorem Reflected.exists_iff {t : Table} (reflected : t.Reflected names) {steps : List Step}
    (plain : ∀ step ∈ steps, step.IsPlain) :
    (∀ c ∈ (t.afterAll steps).columnList, c.exists? = true ↔ c.name ∈ names.map .text) ↔
      KnowsDatabase names steps := by
  let known := fun told : Value × Column.State => told.2 ≠ .new ↔ told.1 ∈ names.map .text
  have outline := (reflected.tracks_afterAll plain).outline
  calc (∀ c ∈ (t.afterAll steps).columnList, c.exists? = true ↔ c.name ∈ names.map .text)
      ↔ ∀ told ∈ (t.afterAll steps).columns.map (fun entry => (entry.2.name, entry.2.state)),
          known told := by
        simp only [columnList, List.forall_mem_map, known, Column.exists?, bne_iff_ne]
    _ ↔ KnowsDatabase names steps := by
        rw [outline]
        simp [known, KnowsDatabase, history]

theorem Reflected.applies_iff (d : Dialect) {t : Table} (reflected : t.Reflected names)
    {steps : List Step} (plain : ∀ step ∈ steps, step.IsPlain) :
    (∀ entry ∈ (t.afterAll steps).written d .new, entry.1 ∉ names) ∧
        (∀ entry ∈ (t.afterAll steps).written d .modified, entry.1 ∈ names) ∧
        (∀ entry ∈ (t.afterAll steps).written d .deleted, entry.1 ∈ names) ↔
      KnowsDatabase names steps := by
  have inState (state : Column.State) (holds : String → Prop) :
      (∀ entry ∈ (t.afterAll steps).written d state, holds entry.1) ↔
        ∀ name ∈ Event.entered names (eventsOf steps),
          Event.fate (history steps name) = state → holds name := by
    rw [← List.forall_mem_map (f := Prod.fst) (P := holds), reflected.written_names d plain]
    simp
  rw [inState .new (· ∉ names), inState .modified (· ∈ names), inState .deleted (· ∈ names)]
  constructor
  · rintro ⟨new, modified, deleted⟩ name entered
    cases fate : Event.fate (history steps name) with
    | unchanged =>
      have there := (Event.mem_entered _ _ _).mp entered
      simpa using there.resolve_right (Event.fate_unchanged fate)
    | new => simpa using new name entered fate
    | modified => simpa using modified name entered fate
    | deleted => simpa using deleted name entered fate
  · intro known
    refine ⟨fun name entered fate => ?_, fun name entered fate => ?_, fun name entered fate => ?_⟩
    · simpa [fate] using known name entered
    · simpa [fate] using known name entered
    · simpa [fate] using known name entered

/-- An alteration applies to the table that it was made for, and the columns that count as there
are those of the database, exactly if every column that was defined over one of the database was
changed or dropped since, and no other column was. -/
theorem alteration_applies_iff (d : Dialect) {t : Table} {names : List String}
    (reflected : t.Reflected names) {steps : List Step} (plain : ∀ step ∈ steps, step.IsPlain) :
    ((∀ entry ∈ (t.afterAll steps).written d .new, entry.1 ∉ names) ∧
        (∀ entry ∈ (t.afterAll steps).written d .modified, entry.1 ∈ names) ∧
        (∀ entry ∈ (t.afterAll steps).written d .deleted, entry.1 ∈ names) ↔
      ∀ name ∈ Event.entered names (eventsOf steps), .defined ∈ history steps name →
        (Event.sinceDefined (history steps name) ≠ [] ↔ name ∈ names)) ∧
    ((∀ c ∈ (t.afterAll steps).columnList, c.exists? = true ↔ c.name ∈ names.map .text) ↔
      ∀ name ∈ Event.entered names (eventsOf steps), .defined ∈ history steps name →
        (Event.sinceDefined (history steps name) ≠ [] ↔ name ∈ names)) := by
  rw [← knowsDatabase_iff]
  exact ⟨reflected.applies_iff d plain, reflected.exists_iff plain⟩

def phoneSteps : List Step :=
  [{ call := .string (.text "phone") none none }, { call := .change (.text "phone") }]

theorem phone_misapplied :
    users.Reflected ["id", "email", "note"] ∧ (∀ step ∈ phoneSteps, step.IsPlain) ∧
      ¬((∀ entry ∈ (users.afterAll phoneSteps).written .mysql .new,
          entry.1 ∉ ["id", "email", "note"]) ∧
        (∀ entry ∈ (users.afterAll phoneSteps).written .mysql .modified,
          entry.1 ∈ ["id", "email", "note"]) ∧
        ∀ entry ∈ (users.afterAll phoneSteps).written .mysql .deleted,
          entry.1 ∈ ["id", "email", "note"]) := by
  have plain : ∀ step ∈ phoneSteps, step.IsPlain := by
    simp only [phoneSteps, List.forall_mem_cons]
    refine ⟨?_, ?_, by simp⟩
    · exact Step.isPlain_add ⟨_, rfl⟩ ⟨_, rfl⟩ rfl (by simp)
    · exact Step.isPlain_mark (.inl rfl) (by simp)
  refine ⟨users_reflected, plain, ?_⟩
  rw [(alteration_applies_iff .mysql users_reflected plain).1]
  decide +kernel

end Table

end FluentSql
