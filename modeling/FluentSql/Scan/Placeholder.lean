import FluentSql.Scan.Literal

/-!
# Placeholders

A question mark outside every literal is a placeholder. Placeholders are
counted, and filled by their position; one without a filling stays.
-/

set_option autoImplicit false

namespace FluentSql.Scan

def isPlaceholder (m : Mark) : Bool :=
  m.isPlain '?'

def countMarks (ms : List Mark) : Nat :=
  ms.countP isPlaceholder

def placeholderCount (sql : String) : Nat :=
  countMarks (marks sql.toList)

/-- Fills the placeholders among marked characters, the first of them numbered `index`. -/
def fillMarks (filling : Nat → Option (List Char)) : Nat → List Mark → List Char
  | _, [] => []
  | index, m :: rest =>
    if isPlaceholder m then
      (filling index).getD ['?'] ++ fillMarks filling (index + 1) rest
    else m.char :: fillMarks filling index rest

def fill (filling : Nat → Option String) (sql : String) : String :=
  String.ofList (fillMarks (fun i => (filling i).map String.toList) 0 (marks sql.toList))

theorem countMarks_append (xs ys : List Mark) :
    countMarks (xs ++ ys) = countMarks xs + countMarks ys := by
  simp [countMarks]

theorem fillMarks_append (filling : Nat → Option (List Char)) (index : Nat)
    (xs ys : List Mark) :
    fillMarks filling index (xs ++ ys) =
      fillMarks filling index xs ++ fillMarks filling (index + countMarks xs) ys := by
  induction xs generalizing index with
  | nil => simp [fillMarks, countMarks]
  | cons x xs ih =>
    by_cases h : isPlaceholder x = true
    · simp [fillMarks, countMarks, h, ih, Nat.add_comm, Nat.add_left_comm]
    · simp [fillMarks, countMarks, h, ih]

theorem fillMarks_none (index : Nat) (ms : List Mark) :
    fillMarks (fun _ => none) index ms = ms.map Mark.char := by
  induction ms generalizing index with
  | nil => rfl
  | cons m ms ih =>
    by_cases h : isPlaceholder m = true
    · have same : m.char = '?' := by
        simp only [isPlaceholder, Mark.isPlain, Bool.and_eq_true, decide_eq_true_eq] at h
        exact h.1
      simp [fillMarks, h, ih, same]
    · simp [fillMarks, h, ih]

end FluentSql.Scan
