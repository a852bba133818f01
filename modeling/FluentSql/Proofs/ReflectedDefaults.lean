import FluentSql.Proofs.Descriptions
import FluentSql.Proofs.KeptBackslashes
import FluentSql.Proofs.QuotedTexts
import FluentSql.Schema.Definition

/-!
# Defaults that survive reflection

The default of a column that is text stands in its definition as a literal,
and a description gives it as the same literal. No literal is taken for an
expression, whatever its text says, and trimming takes nothing off. What is
read is the text itself, except that MySQL's backslashes stay doubled: such a
column is written with another default than it was read with.
-/

set_option autoImplicit false

namespace FluentSql

namespace LiteralStyle

variable {style : LiteralStyle}

theorem mem_readBack {c : Char} {cs : List Char} : c ∈ style.readBack cs ↔ c ∈ cs := by
  induction cs with
  | nil => rfl
  | cons first cs ih =>
    rw [readBack]
    split
    · next doubled =>
      rw [Bool.and_eq_true, decide_eq_true_eq] at doubled
      simp [doubled.1, ih]
    · rw [List.mem_cons, List.mem_cons, ih]

theorem text_readBack_iff (s : String) :
    style.text (String.ofList (style.readBack s.toList)) = style.text s ↔
      style.doublesBackslash = false ∨ '\\' ∉ s.toList := by
  constructor
  · intro same
    have again := congrArg (fun literal => Description.withoutQuotes literal.toList) same
    rw [Description.withoutQuotes_text, Description.withoutQuotes_text, String.toList_ofList,
      readBack_eq_iff, mem_readBack] at again
    exact again
  · intro kept
    rw [(readBack_eq_iff s.toList).mpr kept, String.ofList_toList]

end LiteralStyle

namespace Description

theorem not_isExpression_quote (rest : List Char) : isExpression ('\'' :: rest) = false := by
  have folded : foldedChar '\'' = '\'' := by decide
  simp [isExpression, folded]

theorem readDefault_text (style : LiteralStyle) (s : String) :
    readDefault (some (.text (style.text s))) =
      (.text (String.ofList (style.readBack s.toList)), false) := by
  have trimmed : Text.trimChars (style.text s).toList = (style.text s).toList := by
    rw [← String.toList_ofList (l := Text.trimChars _), ← Text.trim, Scan.trim_text]
  have expression : isExpression (style.text s).toList = false := by
    rw [Scan.toList_text, List.cons_append]
    exact not_isExpression_quote _
  rw [readDefault]
  simp only [trimmed, expression, withoutQuotes_text, Bool.false_eq_true, if_false]

theorem keeps_backslashes_iff (dialect : Dialect) :
    dialect.literals.doublesBackslash = false ↔ dialect = .postgresql := by
  cases dialect <;> decide

theorem defaultClause_changed (dialect : Dialect) (c : Column) (s : String) :
    dialect.defaultClause { c with default := .text s, isExpression := .bool false }.changed =
      "DEFAULT " ++ dialect.literals.text s := by
  rw [Column.changed]
  split <;> rfl

/-- A text default is read from its literal, and the column is changed with the same default,
exactly if the dialect leaves backslashes alone or the text has none. -/
theorem default_survives_iff (dialect : Dialect) (d : Description) {c : Column}
    (described : d.column = .ok c) (s : String) :
    let literal := dialect.literals.value (.text s)
    ∃ reread, ({ d with default := some (.text literal) } : Description).column = .ok reread ∧
      reread = { c with
        default := .text (String.ofList (dialect.literals.readBack s.toList))
        isExpression := .bool false } ∧
      (reread.default = .text s ↔ dialect = .postgresql ∨ '\\' ∉ s.toList) ∧
      (dialect.defaultClause reread.changed = "DEFAULT " ++ literal ↔
        dialect = .postgresql ∨ '\\' ∉ s.toList) := by
  intro literal
  refine ⟨_, ?_, rfl, ?_, ?_⟩
  · rw [column_default, described]
    show Except.ok { c with
      default := (readDefault (some (.text (dialect.literals.text s)))).1
      isExpression := .bool (readDefault (some (.text (dialect.literals.text s)))).2 } = _
    rw [readDefault_text]
  · rw [Value.text.injEq, ← String.toList_inj, String.toList_ofList,
      LiteralStyle.readBack_eq_iff, keeps_backslashes_iff]
  · rw [defaultClause_changed, String.append_right_inj]
    show _ = dialect.literals.text s ↔ _
    rw [LiteralStyle.text_readBack_iff, keeps_backslashes_iff]

def separator : Description where
  name := some (.text "separator")
  type := some (.text "char(1)")

set_option maxRecDepth 4000 in
theorem separator_default_altered :
    ∃ c reread, separator.column = .ok c ∧
      ({ separator with default := some (.text "'\\\\'") } : Description).column = .ok reread ∧
      Dialect.mysql.literals.value (.text "\\") = "'\\\\'" ∧
      reread.default = .text "\\\\" ∧
      Dialect.mysql.defaultClause reread.changed = "DEFAULT '\\\\\\\\'" ∧
      ¬ reread.default = .text "\\" := by
  have described : separator.column = .ok
      { name := .text "separator", type := .text "CHAR", state := .unchanged,
        family := .string (.int 1) } := rfl
  obtain ⟨reread, read, rfl, kept, -⟩ := default_survives_iff .mysql separator described "\\"
  refine ⟨_, _, described, read, rfl, rfl, rfl, fun same => ?_⟩
  rcases kept.mp same with other | none
  · cases other
  · exact none (by decide)

end Description

end FluentSql
