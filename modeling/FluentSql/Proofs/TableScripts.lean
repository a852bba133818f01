import FluentSql.Proofs.BindText
import FluentSql.Proofs.Literals
import FluentSql.Proofs.Results
import FluentSql.Proofs.ScriptParts
import FluentSql.Schema.Script

/-!
# Scripts for tables split at their statements

Names, types, lengths, precisions and default expressions are pasted into a
definition as they are; default values and the texts of an enumeration are
written as literals. If each pasted text is there and unbroken, MySQL's scripts
for a table split into the statements they were put together from, and none of
those has a placeholder.
-/

set_option autoImplicit false

namespace FluentSql

open Scan (Unbroken Body Ended)

/-! ## Columns -/

namespace Column

def Family.sizes : Family → List Value
  | .integer length _ _ => [length]
  | .string length => [length]
  | .dateTime _ precision => [precision]
  | .plain | .text | .enumeration _ => []

/-- The texts that a definition pastes as they are. -/
def rawTexts (c : Column) : List String :=
  c.name.plain :: c.type.plain :: c.family.sizes.map Value.plain
    ++ if c.isExpression.truthy then [c.default.plain] else []

structure SelfContained (c : Column) : Prop where
  name : ∃ s, c.name = .text s
  type : ∃ s, c.type = .text s
  sizes : ∀ size ∈ c.family.sizes, ∃ s, size.written = .ok s
  raw : ∀ s ∈ c.rawTexts, Unbroken s

theorem SelfContained.unbroken_name {c : Column} (h : c.SelfContained) : Unbroken c.name.plain :=
  h.raw _ (by simp [rawTexts])

theorem SelfContained.unbroken_type {c : Column} (h : c.SelfContained) : Unbroken c.type.plain :=
  h.raw _ (by simp [rawTexts])

theorem SelfContained.unbroken_size {c : Column} (h : c.SelfContained) {size : Value}
    (member : size ∈ c.family.sizes) : Unbroken size.plain :=
  h.raw _ (by simp [rawTexts, List.mem_map_of_mem member])

theorem SelfContained.unbroken_expression {c : Column} (h : c.SelfContained)
    (expression : c.isExpression.truthy = true) : Unbroken c.default.plain :=
  h.raw _ (by simp [rawTexts, expression])

end Column

namespace Dialect

theorem unbroken_text (s : String) : Unbroken (LiteralStyle.mysql.text s) :=
  Scan.contained_text rfl _ s

theorem unbroken_value (v : Value) : Unbroken (LiteralStyle.mysql.value v) :=
  Scan.contained_value rfl (by decide) (by decide) v

theorem sized_ok {c : Column} (h : c.SelfContained) {size : Value}
    (member : size ∈ c.family.sizes) : ∃ s, sized c.type size = .ok s ∧ Unbroken s := by
  obtain ⟨text, written⟩ := h.sizes size member
  obtain rfl := Value.written_eq written
  refine ⟨_, congrArg (Except.map _) written, ?_⟩
  exact ((h.unbroken_type.append (by decide)).append (h.unbroken_size member)).append (by decide)

theorem unbroken_enumerated (values : List Value) : Unbroken (enumerated .mysql values) := by
  apply Scan.unbroken_intercalate (by decide)
  intro s hs
  obtain ⟨v, -, rfl⟩ := List.mem_map.mp hs
  exact unbroken_text v.plain

theorem mysqlType_text {c : Column} (h : c.SelfContained) :
    ∃ s, mysqlType c = .ok (.text s) ∧ Unbroken s := by
  obtain ⟨name, type⟩ := h.type
  have plain := h.unbroken_type
  have own : Unbroken name := by rwa [type] at plain
  have size (size : Value) (member : size ∈ c.family.sizes) := sized_ok h member
  rw [mysqlType]
  cases kind : c.family with
  | plain => exact ⟨name, congrArg Except.ok type, own⟩
  | text => exact ⟨name, congrArg Except.ok type, own⟩
  | integer length isUnsigned increments =>
    obtain ⟨s, written, unbroken⟩ := size length (by simp [kind, Column.Family.sizes])
    refine ⟨_, congrArg (Except.map _) written, unbroken.append ?_⟩
    split <;> decide
  | string length =>
    obtain ⟨s, written, unbroken⟩ := size length (by simp [kind, Column.Family.sizes])
    exact ⟨s, congrArg (Except.map _) written, unbroken⟩
  | dateTime onUpdate precision =>
    dsimp only
    split
    · obtain ⟨s, written, unbroken⟩ := size precision (by simp [kind, Column.Family.sizes])
      exact ⟨s, congrArg (Except.map _) written, unbroken⟩
    · exact ⟨name, congrArg Except.ok type, own⟩
  | enumeration values =>
    have opening : Unbroken "ENUM(" := by decide
    exact ⟨_, rfl, (opening.append (unbroken_enumerated values)).append (by decide)⟩

theorem unbroken_nullability (c : Column) : Unbroken (nullability c) := by
  rw [nullability]
  split <;> decide

theorem unbroken_defaultClause {c : Column} (h : c.SelfContained) :
    Unbroken (mysql.defaultClause c) := by
  have word : Unbroken "DEFAULT " := by decide
  rw [defaultClause]
  split
  · decide
  · apply word.append
    split
    · next expression => exact h.unbroken_expression expression
    · exact unbroken_value _

theorem unbroken_extra (c : Column) : Unbroken (mysql.extra c) := by
  unfold extra
  split
  · split <;> decide
  · split <;> decide
  · contradiction
  · decide

end Dialect

theorem spacedWords_texts (words : List String) :
    spacedWords (words.map .text) =
      .ok (" ".intercalate (words.filter fun s => !s.isEmpty)) := by
  have kept : (words.map Value.text).filter Value.truthy =
      (words.filter fun s => !s.isEmpty).map Value.text := by
    rw [List.filter_map]
    rfl
  rw [spacedWords, kept, Value.texts_map_text]
  rfl

theorem Dialect.columnDefinition_mysql {c : Column} (h : c.SelfContained) :
    ∃ s, mysql.columnDefinition c = .ok s ∧ Unbroken s := by
  obtain ⟨name, hname⟩ := h.name
  obtain ⟨type, htype, typed⟩ := mysqlType_text h
  have named : Unbroken name := by
    have plain := h.unbroken_name
    rwa [hname] at plain
  have definition := spacedWords_texts
    [name, type, nullability c, mysql.defaultClause c, mysql.extra c]
  rw [columnDefinition, columnType, hname, htype]
  refine ⟨_, definition, Scan.unbroken_intercalate (by decide) ?_⟩
  intro s hs
  have member := (List.mem_filter.mp hs).1
  simp only [List.mem_cons, List.not_mem_nil, or_false] at member
  rcases member with rfl | rfl | rfl | rfl | rfl
  · exact named
  · exact typed
  · exact unbroken_nullability c
  · exact unbroken_defaultClause h
  · exact unbroken_extra c

theorem Dialect.modifyClauses_mysql {c : Column} (h : c.SelfContained) :
    ∃ clauses, mysql.modifyClauses c = .ok clauses ∧ ∀ s ∈ clauses, Unbroken s := by
  obtain ⟨definition, written, unbroken⟩ := columnDefinition_mysql h
  have word : Unbroken "MODIFY COLUMN " := by decide
  refine ⟨["MODIFY COLUMN " ++ definition], ?_, ?_⟩
  · rw [modifyClauses, written]
    rfl
  · simpa using word.append unbroken

/-! ## Indexes -/

namespace Index

def rawTexts (i : Index) : List String :=
  i.table.plain :: i.name.plain :: i.columns.map Value.plain

structure SelfContained (i : Index) : Prop where
  columns : ∃ names : List String, i.columns = names.map .text
  raw : ∀ s ∈ i.rawTexts, Unbroken s

theorem columnText_ok {i : Index} (h : i.SelfContained) :
    ∃ s, i.columnText = .ok s ∧ Unbroken s := by
  obtain ⟨names, same⟩ := h.columns
  refine ⟨", ".intercalate names, ?_, Scan.unbroken_intercalate (by decide) ?_⟩
  · rw [columnText, same, Value.texts_map_text]
    rfl
  · intro s hs
    have member : Value.text s ∈ i.columns := by
      rw [same]
      exact List.mem_map_of_mem hs
    exact h.raw s (by simpa [rawTexts] using Or.inr (Or.inr ⟨_, member, rfl⟩))

theorem definition_ok {i : Index} (h : i.SelfContained) :
    ∃ s, i.definition = .ok s ∧ Body s := by
  obtain ⟨columns, read, unbroken⟩ := columnText_ok h
  have table : Unbroken i.table.plain := h.raw _ (by simp [rawTexts])
  have name : Unbroken i.name.plain := h.raw _ (by simp [rawTexts])
  have target : Unbroken (i.name.plain ++ " ON " ++ i.table.plain ++ " (" ++ columns ++ ")") :=
    ((((name.append (by decide)).append table).append (by decide)).append unbroken).append
      (by decide)
  rw [definition, read]
  cases i.kind with
  | primary =>
    have alter : Body "ALTER TABLE " := by decide
    exact ⟨_, rfl, (((alter.append table).append (by decide)).append unbroken).append (by decide)⟩
  | unique =>
    have create : Body "CREATE UNIQUE INDEX " := by decide
    exact ⟨_, rfl, create.append target⟩
  | normal =>
    have create : Body "CREATE INDEX " := by decide
    exact ⟨_, rfl, create.append target⟩

end Index

/-! ## Tables -/

namespace Table

structure SelfContained (t : Table) : Prop where
  name : Unbroken t.name.plain
  columns : ∀ c ∈ t.columnList, c.SelfContained
  indexes : ∀ i ∈ t.indexList, i.SelfContained

/-- A script that splits into statements, all of which run without values. -/
def SplitsInto (script : String) (statements : List String) : Prop :=
  ∃ bodies : List String, statements = bodies.map (· ++ ";") ∧
    Scan.statements script = bodies.map Text.trim ∧
    ∀ body ∈ bodies, Scan.placeholderCount (Text.trim body) = 0 ∧
      ∃ p, Connection.prepare (Text.trim body) [] = .ok p

theorem splitsInto_script {statements : List String} (h : ∀ s ∈ statements, Ended s) :
    SplitsInto (script statements) statements := by
  obtain ⟨bodies, rfl, whole⟩ := Scan.bodies_of_ended h
  refine ⟨bodies, rfl, Scan.statements_lines bodies whole, fun body member => ?_⟩
  have none := (whole body member).placeholderCount_trim
  exact ⟨none, _, Connection.prepare_of_count none⟩

theorem indexStatements_eq {t : Table} {definitions : List String}
    (written : t.indexList.mapM Index.definition = .ok definitions) :
    t.indexList.map Index.definition = definitions.map .ok ∧
      t.indexStatements = .ok (definitions.map (· ++ ";")) := by
  refine ⟨map_of_mapM_ok written, ?_⟩
  rw [indexStatements, mapM_map, written]
  rfl

theorem indexStatements_ok {t : Table} (h : t.SelfContained) :
    ∃ definitions : List String, t.indexList.map Index.definition = definitions.map .ok ∧
      t.indexStatements = .ok (definitions.map (· ++ ";")) ∧ ∀ s ∈ definitions, Body s := by
  obtain ⟨definitions, written, whole⟩ :=
    mapM_ok fun i member => Index.definition_ok (h.indexes i member)
  obtain ⟨listed, statements⟩ := indexStatements_eq written
  exact ⟨definitions, listed, statements, whole⟩

theorem createStatement_ok {t : Table} (h : t.SelfContained) :
    ∃ s, t.createStatement .mysql = .ok s ∧ Ended s := by
  obtain ⟨definitions, written, unbroken⟩ :=
    mapM_ok fun c member => Dialect.columnDefinition_mysql (h.columns c member)
  have create : Body "CREATE TABLE " := by decide
  have listed : Unbroken (", ".intercalate definitions) :=
    Scan.unbroken_intercalate (by decide) unbroken
  have ending (s : String) : s ++ ")" ++ ";" = s ++ ");" := String.append_assoc
  refine ⟨_, by rw [createStatement, written]; rfl, _, (ending _).symm, ?_⟩
  exact (((create.append h.name).append (by decide)).append listed).append (by decide)

theorem alterStatement_ok {t : Table} (h : t.SelfContained) {clauses : List String}
    (hc : ∀ s ∈ clauses, Unbroken s) :
    Ended (t.alterStatement clauses) := by
  have alter : Body "ALTER TABLE " := by decide
  have listed : Unbroken (", ".intercalate clauses) :=
    Scan.unbroken_intercalate (by decide) hc
  exact ⟨_, rfl, ((alter.append h.name).append (by decide)).append listed⟩

theorem alterColumns_ok {t : Table} (h : t.SelfContained) (state : Column.State)
    {clauses : Column → Except Fault (List String)}
    (hc : ∀ c, c.SelfContained → ∃ written, clauses c = .ok written ∧ ∀ s ∈ written, Unbroken s) :
    ∃ s, t.alterColumns state clauses = .ok s ∧
      (s.isEmpty = true ∨ Ended s) := by
  have columns : ∀ c ∈ t.columnsIn state, c.SelfContained :=
    fun c member => h.columns c (List.mem_filter.mp member).1
  rw [alterColumns]
  split
  · exact ⟨"", rfl, Or.inl rfl⟩
  · obtain ⟨written, run, unbroken⟩ := mapM_ok fun c member => hc c (columns c member)
    refine ⟨_, by rw [run]; rfl, Or.inr (alterStatement_ok h ?_)⟩
    intro s hs
    obtain ⟨some_, member, inside⟩ := List.mem_flatten.mp hs
    exact unbroken some_ member s inside

theorem addStatement_ok {t : Table} (h : t.SelfContained) :
    ∃ s, t.addStatement .mysql = .ok s ∧
      (s.isEmpty = true ∨ Ended s) := by
  apply alterColumns_ok h .new
  intro c hc
  obtain ⟨definition, written, unbroken⟩ := Dialect.columnDefinition_mysql hc
  have word : Unbroken "ADD COLUMN " := by decide
  refine ⟨["ADD COLUMN " ++ definition], by rw [written]; rfl, ?_⟩
  simpa using word.append unbroken

theorem modifyStatement_ok {t : Table} (h : t.SelfContained) :
    ∃ s, t.modifyStatement .mysql = .ok s ∧
      (s.isEmpty = true ∨ Ended s) :=
  alterColumns_ok h .modified fun _ hc => Dialect.modifyClauses_mysql hc

theorem dropStatement_ok {t : Table} (h : t.SelfContained) :
    ∃ s, t.dropStatement = .ok s ∧
      (s.isEmpty = true ∨ Ended s) := by
  apply alterColumns_ok h .deleted
  intro c hc
  have word : Unbroken "DROP COLUMN " := by decide
  refine ⟨_, rfl, ?_⟩
  simpa using word.append hc.unbroken_name

/-- MySQL's scripts for a table are written, and split into the statements they are made of: at the
end of both there is one for each index, in order. -/
theorem scripts_split (t : Table) (h : t.SelfContained) :
    ∃ (create add modify drop : String) (definitions : List String) (created altered : String),
      t.createStatement .mysql = .ok create ∧ t.addStatement .mysql = .ok add ∧
      t.modifyStatement .mysql = .ok modify ∧ t.dropStatement = .ok drop ∧
      t.indexList.map Index.definition = definitions.map .ok ∧
      t.indexStatements = .ok (definitions.map (· ++ ";")) ∧
      t.createScript .mysql = .ok created ∧
      SplitsInto created (create :: definitions.map (· ++ ";")) ∧
      t.alterScript .mysql = .ok altered ∧
      SplitsInto altered
        ([add, modify, drop].filter (fun s => !s.isEmpty) ++ definitions.map (· ++ ";")) := by
  obtain ⟨create, hcreate, created⟩ := createStatement_ok h
  obtain ⟨add, hadd, added⟩ := addStatement_ok h
  obtain ⟨modify, hmodify, modified⟩ := modifyStatement_ok h
  obtain ⟨drop, hdrop, dropped⟩ := dropStatement_ok h
  obtain ⟨definitions, listed, hindexes, whole⟩ := indexStatements_ok h
  have indexed : ∀ s ∈ definitions.map (· ++ ";"), Ended s :=
    List.forall_mem_map.mpr fun body member => ⟨body, rfl, whole body member⟩
  refine ⟨create, add, modify, drop, definitions, _, _, hcreate, hadd, hmodify, hdrop, listed,
    hindexes, ?_, splitsInto_script (List.forall_mem_cons.mpr ⟨created, indexed⟩), ?_,
    splitsInto_script ?_⟩
  · rw [createScript, hcreate, hindexes]
    rfl
  · rw [alterScript, alterStatements, hadd, hmodify, hdrop, hindexes]
    rfl
  · intro s hs
    rcases List.mem_append.mp hs with hs | hs
    · obtain ⟨member, kept⟩ := List.mem_filter.mp hs
      have either : s.isEmpty = true ∨ Ended s := by
        simp only [List.mem_cons, List.not_mem_nil, or_false] at member
        rcases member with rfl | rfl | rfl
        · exact added
        · exact modified
        · exact dropped
      exact either.resolve_left fun empty => by simp [empty] at kept
    · exact indexed s hs

/-- A new, a modified and a deleted column; the literals have every character that could mislead. -/
def notes : Table where
  name := .text "notes"
  columns := [
    (.text "body", {
      name := .text "body", type := .text "VARCHAR", default := .text "it's; why?\n\\"
      family := .string (.int 80) }),
    (.text "kind", {
      name := .text "kind", type := .text "ENUM", nullable := .bool false, state := .modified
      family := .enumeration [.text "a';b", .text "\\'?"] }),
    (.text "old", {
      name := .text "old", type := .text "DATETIME", state := .deleted
      default := Column.currentTimestamp, isExpression := .bool true
      family := .dateTime (.bool true) (.int 6) })]
  indexes := [
    (.text "notes_kind", {
      table := .text "notes", columns := [.text "kind", .text "body"]
      name := .text "notes_kind", kind := .unique })]

theorem notes_split :
    notes.SelfContained ∧ ∃ (create add modify drop : String) (definitions : List String)
        (created altered : String),
      notes.createStatement .mysql = .ok create ∧ notes.addStatement .mysql = .ok add ∧
      notes.modifyStatement .mysql = .ok modify ∧ notes.dropStatement = .ok drop ∧
      notes.indexList.map Index.definition = definitions.map .ok ∧
      notes.indexStatements = .ok (definitions.map (· ++ ";")) ∧
      notes.createScript .mysql = .ok created ∧
      SplitsInto created (create :: definitions.map (· ++ ";")) ∧
      notes.alterScript .mysql = .ok altered ∧
      SplitsInto altered
        ([add, modify, drop].filter (fun s => !s.isEmpty) ++ definitions.map (· ++ ";")) := by
  have contained : notes.SelfContained := by
    refine ⟨by decide, fun c member => ?_, fun i member => ?_⟩
    · simp only [notes, columnList, List.map_cons, List.map_nil, List.mem_cons, List.not_mem_nil,
        or_false] at member
      rcases member with rfl | rfl | rfl
      · exact ⟨⟨_, rfl⟩, ⟨_, rfl⟩, by simpa [Column.Family.sizes] using ⟨_, rfl⟩, by decide⟩
      · exact ⟨⟨_, rfl⟩, ⟨_, rfl⟩, by simp [Column.Family.sizes], by decide⟩
      · exact ⟨⟨_, rfl⟩, ⟨_, rfl⟩, by simpa [Column.Family.sizes] using ⟨_, rfl⟩, by decide⟩
    · simp only [notes, indexList, List.map_cons, List.map_nil, List.mem_cons, List.not_mem_nil,
        or_false] at member
      obtain rfl := member
      exact ⟨⟨["kind", "body"], rfl⟩, by decide⟩
  exact ⟨contained, scripts_split notes contained⟩

end Table

end FluentSql
