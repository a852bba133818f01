import FluentSql.Scan.Literal
import FluentSql.Text.Blank

/-!
# Splitting a script

A semicolon outside every literal ends a statement. The statements of a
script are the parts between those, trimmed, without the empty ones.
-/

set_option autoImplicit false

namespace FluentSql.Scan

/-- The parts of marked characters between plain semicolons; there is always at least one. -/
def parts : List Mark → List (List Char)
  | [] => [[]]
  | m :: rest =>
    if m.isPlain ';' then [] :: parts rest
    else
      match parts rest with
      | [] => [[m.char]]
      | first :: others => (m.char :: first) :: others

def trimmedParts (ms : List Mark) : List (List Char) :=
  ((parts ms).map Text.trimChars).filter fun part => !part.isEmpty

def statements (script : String) : List String :=
  (trimmedParts (marks script.toList)).map String.ofList

theorem parts_ne_nil (ms : List Mark) : parts ms ≠ [] := by
  cases ms with
  | nil => simp [parts]
  | cons m rest =>
    simp only [parts]
    split
    · simp
    · split <;> simp

theorem parts_append_separator (xs ys : List Mark) {m : Mark} (h : m.isPlain ';' = true) :
    parts (xs ++ m :: ys) = parts xs ++ parts ys := by
  induction xs with
  | nil => simp [parts, h]
  | cons x xs ih =>
    by_cases plain : x.isPlain ';' = true
    · simp [parts, plain, ih]
    · simp only [List.cons_append, parts, if_neg plain, ih]
      cases found : parts xs with
      | nil => exact absurd found (parts_ne_nil xs)
      | cons first others => rfl

end FluentSql.Scan
