import FluentSql.Proofs.Holes
import FluentSql.Query.Where

/-!
# Sentences of where clauses

The texts of where lists are the sentences of a small grammar: a list is an
item, or a list followed by a connective and one more item, and an item is a
condition or a list in parentheses. A sentence belongs to the clauses and the
values that it is a text of. The text of a list that is not empty and has no
empty group is a sentence for its own clauses.
-/

set_option autoImplicit false

namespace FluentSql

/-! ## The grammar -/

namespace Where

def marks (values : List Value) : String :=
  ", ".intercalate (values.map fun _ => "?")

/-- The seven forms of a condition, with the values that belong to their placeholders. -/
inductive Leaf : Condition → String → List Value → Prop
  | compare (column operator : String) (value : Value) :
      Leaf (.compare column operator value) (column ++ " " ++ operator ++ " ?") [value]
  | oneOf (column : String) (values : List Value) :
      Leaf (.oneOf column values) (column ++ " IN (" ++ marks values ++ ")") values
  | noneOf (column : String) (values : List Value) :
      Leaf (.noneOf column values) (column ++ " NOT IN (" ++ marks values ++ ")") values
  | isNull (column : String) : Leaf (.isNull column) (column ++ " IS NULL") []
  | isNotNull (column : String) : Leaf (.isNotNull column) (column ++ " IS NOT NULL") []
  | between (column : String) (low high : Value) :
      Leaf (.between column low high) (column ++ " BETWEEN ? AND ?") [low, high]
  | like (column : String) (pattern : Value) :
      Leaf (.like column pattern) (column ++ " LIKE ?") [pattern]

mutual

inductive Item : Where → String → List Value → Prop
  | leaf {connective : Connective} {condition : Condition} {text : String} {values : List Value}
      (inner : Leaf condition text values) : Item (.leaf connective condition) text values
  | group {connective : Connective} {members : List Where} {text : String} {values : List Value}
      (inner : Sentence members text values) :
      Item (.group connective members) ("(" ++ text ++ ")") values

inductive Sentence : List Where → String → List Value → Prop
  | first {w : Where} {text : String} {values : List Value} (item : Item w text values) :
      Sentence [w] text values
  | next {ws : List Where} {w : Where} {text added : String} {values addedValues : List Value}
      (before : Sentence ws text values) (item : Item w added addedValues) :
      Sentence (ws ++ [w]) (text ++ " " ++ Keyword.word w.connective ++ " " ++ added)
        (values ++ addedValues)

end

/-! ## Lists without empty groups -/

mutual

/-- No group in the clause is empty. -/
def IsFilled : Where → Prop
  | leaf _ _ => True
  | group _ members => members ≠ [] ∧ AllFilled members

def AllFilled : List Where → Prop
  | [] => True
  | w :: rest => IsFilled w ∧ AllFilled rest

end

theorem allFilled_append {ws us : List Where} (hw : AllFilled ws) (hu : AllFilled us) :
    AllFilled (ws ++ us) := by
  induction ws with
  | nil => exact hu
  | cons w ws ih => exact ⟨hw.1, ih hw.2⟩

/-! ## Texts are sentences -/

theorem leaf_fragment (c : Condition) : Leaf c c.fragment.sql c.values := by
  have form {text : String} (leaf : Leaf c text c.values) (same : c.fragment.sql = text) :
      Leaf c c.fragment.sql c.values := by
    rwa [same]
  cases c with
  | compare column operator value =>
    apply form (.compare column operator value)
    simp [Condition.fragment, Fragment.sql, String.append_assoc]
  | oneOf column values =>
    apply form (.oneOf column values)
    simp [Condition.fragment, Fragment.sql, Fragment.sql_append, Fragment.sql_holes, marks,
      String.append_assoc]
  | noneOf column values =>
    apply form (.noneOf column values)
    simp [Condition.fragment, Fragment.sql, Fragment.sql_append, Fragment.sql_holes, marks,
      String.append_assoc]
  | isNull column =>
    apply form (.isNull column)
    simp [Condition.fragment, Fragment.sql]
  | isNotNull column =>
    apply form (.isNotNull column)
    simp [Condition.fragment, Fragment.sql]
  | between column low high =>
    apply form (.between column low high)
    simp [Condition.fragment, Fragment.sql, String.append_assoc]
  | like column pattern =>
    apply form (.like column pattern)
    simp [Condition.fragment, Fragment.sql, String.append_assoc]

mutual

theorem item_body (w : Where) (filled : w.IsFilled) : Item w w.body.sql w.values := by
  cases w with
  | leaf connective condition => exact .leaf (leaf_fragment condition)
  | group connective members =>
    have inner := sentence_listed members filled.1 filled.2
    have text : (body (group connective members)).sql = "(" ++ (listed members).sql ++ ")" := by
      simp [body, Fragment.sql, Fragment.sql_append, String.append_assoc]
    rw [text]
    exact .group inner

theorem sentence_listed (ws : List Where) (nonempty : ws ≠ []) (filled : AllFilled ws) :
    Sentence ws (listed ws).sql (valuesAll ws) := by
  cases ws with
  | nil => exact absurd rfl nonempty
  | cons w rest =>
    have first := Sentence.first (item_body w filled.1)
    rw [listed, Fragment.sql_append, valuesAll]
    exact sentence_continued rest filled.2 first

/-- What follows a sentence goes on with it, whatever the clauses were that it began with. -/
theorem sentence_continued (rest : List Where) (filled : AllFilled rest) {ws : List Where}
    {text : String} {values : List Value} (before : Sentence ws text values) :
    Sentence (ws ++ rest) (text ++ (continued rest).sql) (values ++ valuesAll rest) := by
  cases rest with
  | nil => simpa [continued, valuesAll, Fragment.sql] using before
  | cons w rest =>
    have whole := sentence_continued rest filled.2 (before.next (item_body w filled.1))
    simpa [continued, valuesAll, connectiveText, Fragment.sql, Fragment.sql_append,
      String.append_assoc] using whole

end

end Where

end FluentSql
