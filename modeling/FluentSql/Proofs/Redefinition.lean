import FluentSql.Proofs.AlterHistory

/-!
# What a redefinition leaves

A clause is read as what it does to a column in the database: MySQL's replaces
the whole definition, and PostgreSQL's set the type, the nullability or the
default, each alone. Read so, the clauses leave what the column describes,
except that PostgreSQL has none for a column without a default: the default
from before is left.
-/

set_option autoImplicit false

namespace FluentSql

/-! ## Columns in a database -/

/-- What a database keeps of a column. -/
structure Stored where
  type : String
  nullable : Bool
  default : Option String

namespace Stored

inductive Part where
  | type (name : String)
  | nullable (allowed : Bool)
  | default (value : Option String)

def set (s : Stored) : Part → Stored
  | .type name => { s with type := name }
  | .nullable allowed => { s with nullable := allowed }
  | .default value => { s with default := value }

inductive Change where
  | only (part : Part)
  | whole (definition : Stored) (extra : String)

def change (s : Stored) : Change → Stored
  | .only part => s.set part
  | .whole definition _ => definition

/-! ## How they are written -/

def Part.written : Part → String
  | type name => "TYPE " ++ name
  | nullable true => "DROP NOT NULL"
  | nullable false => "SET NOT NULL"
  | default (some value) => "SET DEFAULT " ++ value
  | default none => "DROP DEFAULT"

def defaultWords : Option String → String
  | some value => "DEFAULT " ++ value
  | none => ""

/-- The words that define a column. What stands at their end is no part of it that is kept. -/
def definition (s : Stored) (name extra : String) : String :=
  let words :=
    [name, s.type, if s.nullable then "NULL" else "NOT NULL", defaultWords s.default, extra]
  " ".intercalate (words.filter fun word => !word.isEmpty)

def Change.clause (name : String) : Change → String
  | only part => "ALTER COLUMN " ++ name ++ " " ++ part.written
  | whole definition extra => "MODIFY COLUMN " ++ definition.definition name extra

theorem Change.clause_type (name type : String) :
    "ALTER COLUMN " ++ name ++ " " ++ "TYPE " ++ type = (only (.type type)).clause name :=
  String.append_assoc

theorem Change.clause_nullable (name : String) (allowed : Bool) :
    "ALTER COLUMN " ++ name ++ " " ++ (if allowed then "DROP NOT NULL" else "SET NOT NULL") =
      (only (.nullable allowed)).clause name := by
  cases allowed <;> rfl

theorem Change.clause_default (name value : String) :
    "ALTER COLUMN " ++ name ++ " " ++ "SET " ++ defaultWords (some value) =
      (only (.default (some value))).clause name := by
  have words : "SET " ++ defaultWords (some value) = "SET DEFAULT " ++ value :=
    String.append_assoc.symm
  rw [String.append_assoc, words]
  rfl

theorem Part.written_injective {p q : Part} (h : p.written = q.written) : p = q := by
  -- The first words tell the kinds of parts from each other, the rest tells parts of one kind.
  rw [← String.toList_inj] at h
  rcases p with s | (_ | _) | (_ | s) <;> rcases q with t | (_ | _) | (_ | t) <;>
    simp [written] at h ⊢
  all_goals exact String.toList_inj.mp h

theorem Change.eq_only {name : String} {change : Change} {part : Part}
    (h : change.clause name = (only part).clause name) : change = only part := by
  cases change with
  | only other =>
    have same : other.written = part.written := (String.append_right_inj _).mp h
    rw [Part.written_injective same]
  | whole definition extra =>
    change "MODIFY COLUMN " ++ definition.definition name extra =
      "ALTER COLUMN " ++ name ++ " " ++ part.written at h
    rw [← String.toList_inj] at h
    simp at h

theorem changes_eq {name : String} {changes : List Change} {parts : List Part}
    (h : changes.map (Change.clause name) =
      (parts.map Change.only).map (Change.clause name)) :
    changes = parts.map Change.only := by
  induction parts generalizing changes with
  | nil => exact List.map_eq_nil_iff.mp h
  | cons part parts ih =>
    cases changes with
    | nil => cases h
    | cons change changes =>
      obtain ⟨first, rest⟩ := List.cons.inj h
      rw [Change.eq_only first, ih rest, List.map_cons]

end Stored

/-! ## What a column describes -/

def Column.uncounted (c : Column) : Column :=
  match c.family with
  | .integer length isUnsigned _ =>
    { c with family := .integer length isUnsigned (.bool false) }
  | _ => c

namespace Dialect

open Stored

def defaultText? (d : Dialect) (c : Column) : Option String :=
  match c.default with
  | .null => none
  | v => some (if c.isExpression.truthy then v.plain else d.literals.value v)

def typeText (d : Dialect) (c : Column) : String :=
  match d.columnType c with
  | .ok type => type.plain
  | .error _ => ""

/-- The column of a database that a column describes. A serial type is its integer type, counted
up from outside. -/
def described (d : Dialect) (c : Column) : Stored where
  type := d.typeText c.uncounted
  nullable := c.nullable.truthy
  default := d.defaultText? c

variable {c : Column}

theorem defaultText?_eq_none (d : Dialect) : d.defaultText? c = none ↔ c.default = .null := by
  unfold defaultText?
  cases c.default <;> simp

theorem defaultClause_eq (d : Dialect) : d.defaultClause c = defaultWords (d.defaultText? c) := by
  unfold defaultClause defaultText?
  cases c.default <;> rfl

theorem columnType_uncounted : mysql.columnType c.uncounted = mysql.columnType c := by
  change mysqlType c.uncounted = mysqlType c
  unfold mysqlType Column.uncounted
  cases family : c.family <;> simp [family]

theorem alteredType_eq : alteredType c = postgresql.columnType c.uncounted := by
  change alteredType c = postgresqlType c.uncounted
  unfold alteredType postgresqlType Column.uncounted
  cases family : c.family <;> simp [family, Value.truthy]

theorem columnDefinition_described (d : Dialect) (named : ∃ s, c.name = .text s)
    (typed : ∃ type, d.columnType c = .ok (.text type))
    (plain : d.columnType c.uncounted = d.columnType c) :
    d.columnDefinition c = .ok ((d.described c).definition c.name.plain (d.extra c)) := by
  obtain ⟨name, named⟩ := named
  obtain ⟨type, typed⟩ := typed
  have written := spacedWords_texts
    [name, type, nullability c, d.defaultClause c, d.extra c]
  rw [columnDefinition, named, typed]
  refine written.trans ?_
  rw [definition, described, typeText, plain, typed, defaultClause_eq]
  rfl

/-! ## Redefinitions -/

def parts (d : Dialect) (c : Column) : List Part :=
  [.type (d.described c).type, .nullable (d.described c).nullable] ++
    (d.described c).default.toList.map fun value => .default (some value)

def redefinition : Dialect → Column → List Change
  | mysql, c => [.whole (mysql.described c) (mysql.extra c)]
  | postgresql, c => (postgresql.parts c).map .only

theorem modifyClauses_eq (d : Dialect) (named : ∃ s, c.name = .text s)
    (typed : ∃ type, d.columnType c = .ok (.text type)) :
    d.modifyClauses c = .ok ((d.redefinition c).map (Change.clause c.name.plain)) := by
  cases d with
  | mysql =>
    rw [modifyClauses, columnDefinition_described mysql named typed columnType_uncounted]
    rfl
  | postgresql =>
    obtain ⟨type, written⟩ := alteredType_ok_iff.mpr (typed.imp' Value.text fun _ => id)
    have own : postgresql.typeText c.uncounted = type.plain := by
      rw [typeText, ← alteredType_eq, written]
    rw [modifyClauses, written]
    dsimp only [Except.map, redefinition, parts, described]
    rw [own, defaultClause_eq, Change.clause_type, Change.clause_nullable]
    cases postgresql.defaultText? c with
    | none => rfl
    | some value =>
      have nonempty : (defaultWords (some value)).isEmpty = false := by simp [defaultWords]
      rw [Change.clause_default, nonempty]
      rfl

def Redefines (d : Dialect) (c : Column) (before after : Stored) : Prop :=
  ∃ changes : List Change, d.modifyClauses c = .ok (changes.map (Change.clause c.name.plain)) ∧
    changes.foldl change before = after

/-- What is left of a column: without a default of its own PostgreSQL leaves the one before. -/
def left (d : Dialect) (c : Column) (before : Stored) : Stored :=
  match d with
  | mysql => d.described c
  | postgresql => { d.described c with default := (d.described c).default.or before.default }

theorem redefinition_left (d : Dialect) (before : Stored) :
    (d.redefinition c).foldl change before = d.left c before := by
  cases d with
  | mysql => rfl
  | postgresql =>
    dsimp only [redefinition, parts, left]
    cases (postgresql.described c).default <;> rfl

theorem redefines_left (d : Dialect) (named : ∃ s, c.name = .text s)
    (typed : ∃ type, d.columnType c = .ok (.text type)) (before : Stored) :
    d.Redefines c before (d.left c before) :=
  ⟨_, d.modifyClauses_eq named typed, d.redefinition_left before⟩

theorem eq_left (named : ∃ s, c.name = .text s)
    (typed : ∃ type, postgresql.columnType c = .ok (.text type)) {before after : Stored}
    (h : postgresql.Redefines c before after) :
    after = postgresql.left c before := by
  obtain ⟨changes, written, rfl⟩ := h
  rw [modifyClauses_eq postgresql named typed] at written
  -- No other changes are written like these, so what is read is what was meant.
  have only := changes_eq (Except.ok.inj written).symm
  rw [only]
  exact postgresql.redefinition_left before

theorem left_eq_described (d : Dialect) (before : Stored) :
    d.left c before = d.described c ↔
      d = mysql ∨ c.default ≠ .null ∨ before.default = none := by
  cases d with
  | mysql => simp [left]
  | postgresql =>
    rw [left, Ne, ← defaultText?_eq_none postgresql]
    unfold described
    cases postgresql.defaultText? c <;> simp

/-- A redefinition leaves what the column describes, except for a default that the column does not
have: on PostgreSQL the one before is left. -/
theorem redefines_described_iff (d : Dialect) {c : Column} (named : ∃ s, c.name = .text s)
    (typed : ∃ type, d.columnType c = .ok (.text type)) (before : Stored) :
    d.Redefines c before (d.left c before) ∧
      (d.Redefines c before (d.described c) ↔
        d = mysql ∨ c.default ≠ .null ∨ before.default = none) := by
  refine ⟨d.redefines_left named typed before, fun described => ?_, fun settled => ?_⟩
  · cases d with
    | mysql => exact .inl rfl
    | postgresql => exact (left_eq_described _ before).mp (eq_left named typed described).symm
  · rw [← (left_eq_described d before).mpr settled]
    exact d.redefines_left named typed before

def email : Column where
  name := .text "email"
  type := .text "VARCHAR"
  family := .string (.int 255)

theorem email_keeps_default :
    (∃ s, email.name = .text s) ∧ (∃ type, postgresql.columnType email = .ok (.text type)) ∧
      postgresql.modifyClauses email =
        .ok ["ALTER COLUMN email TYPE VARCHAR(255)", "ALTER COLUMN email DROP NOT NULL"] ∧
      postgresql.described email = ⟨"VARCHAR(255)", true, none⟩ ∧
      postgresql.Redefines email ⟨"TEXT", false, some "'x'"⟩ ⟨"VARCHAR(255)", true, some "'x'"⟩ ∧
      ¬ postgresql.Redefines email ⟨"TEXT", false, some "'x'"⟩ (postgresql.described email) := by
  have named : ∃ s, email.name = .text s := ⟨_, rfl⟩
  have typed : ∃ type, postgresql.columnType email = .ok (.text type) := ⟨_, rfl⟩
  obtain ⟨kept, settled⟩ :=
    redefines_described_iff postgresql named typed ⟨"TEXT", false, some "'x'"⟩
  refine ⟨named, typed, rfl, rfl, kept, fun described => ?_⟩
  rcases settled.mp described with other | own | bare
  · cases other
  · exact own rfl
  · cases bare

end Dialect

end FluentSql
