import FluentSql.Scan.Placeholder
import FluentSql.Scan.Statement
import Mathlib.Data.List.Defs

/-!
# Doubled quotes

A lexer with the next character in sight keeps a literal open on a doubled
quote, which it takes as content, and closes it on a single one. The reader
has no look-ahead: it leaves the literal at the first quote of a pair and
enters it again at the second. It is the same behind the pair as before it,
and a quote is marked whether it opens, closes or stands inside, so both mark
every text alike.
-/

set_option autoImplicit false

namespace FluentSql.Scan

/-- Marks a text as a lexer with one character of look-ahead reads it, outside every literal or in
one opened by a quote. Escapes and doubled quotes are taken two characters at a time. -/
def lookahead : Option Quote → List Char → List Mark
  | _, [] => []
  | opened, [c] => [⟨c, decide (c = '\\') || opened.isSome || (Quote.ofChar? c).isSome⟩]
  | opened, c :: next :: rest =>
    if c = '\\' then ⟨c, true⟩ :: ⟨next, true⟩ :: lookahead opened rest
    else
      match opened with
      | none => ⟨c, (Quote.ofChar? c).isSome⟩ :: lookahead (Quote.ofChar? c) (next :: rest)
      | some q =>
        if c = q.char then
          if next = q.char then ⟨c, true⟩ :: ⟨next, true⟩ :: lookahead (some q) rest
          else ⟨c, true⟩ :: lookahead none (next :: rest)
        else ⟨c, true⟩ :: lookahead (some q) (next :: rest)

def plainPlaces (c : Char) (ms : List Mark) : List Nat :=
  ms.findIdxs fun m => m.isPlain c

/-! ## Steps of the reader -/

def State.within (opened : Option Quote) : State := ⟨opened, false⟩

theorem Quote.char_ne_backslash (q : Quote) : q.char ≠ '\\' := by
  cases q <;> decide

theorem State.marks_escape (opened : Option Quote) (c : Char) (rest : List Char) :
    (within opened).marks ('\\' :: c :: rest) =
      ⟨'\\', true⟩ :: ⟨c, true⟩ :: (within opened).marks rest := by
  simp [marks, mark, next, within]

theorem State.marks_outside {c : Char} (plain : c ≠ '\\') (rest : List Char) :
    (within none).marks (c :: rest) =
      ⟨c, (Quote.ofChar? c).isSome⟩ :: (within (Quote.ofChar? c)).marks rest := by
  simp [marks, mark, next, within, plain]

theorem State.marks_inside {q : Quote} {c : Char} (plain : c ≠ '\\') (other : c ≠ q.char)
    (rest : List Char) :
    (within (some q)).marks (c :: rest) = ⟨c, true⟩ :: (within (some q)).marks rest := by
  simp [marks, mark, next, within, plain, other]

theorem State.marks_close (q : Quote) (rest : List Char) :
    (within (some q)).marks (q.char :: rest) = ⟨q.char, true⟩ :: (within none).marks rest := by
  simp [marks, mark, next, within, q.char_ne_backslash, State.top]

theorem State.marks_pair (q : Quote) (rest : List Char) :
    (within (some q)).marks (q.char :: q.char :: rest) =
      ⟨q.char, true⟩ :: ⟨q.char, true⟩ :: (within (some q)).marks rest := by
  rw [marks_close, marks_outside q.char_ne_backslash, Quote.ofChar?_char]
  rfl

/-! ## Both lexers -/

theorem lookahead_eq_marks (opened : Option Quote) (cs : List Char) :
    lookahead opened cs = (State.within opened).marks cs := by
  fun_induction lookahead opened cs with
  | case1 => rfl
  | case2 opened c => rfl
  | case3 opened next rest ih => rw [State.marks_escape, ih]
  | case4 c next rest plain ih => rw [State.marks_outside plain, ih]
  | case5 rest q plain ih => rw [State.marks_pair, ih]
  | case6 next rest q plain single ih => rw [State.marks_close, ih]
  | case7 c next rest plain q other ih => rw [State.marks_inside plain other, ih]

/-- To close a literal at each of its quotes and open it again is the same as to look ahead for a
doubled quote: every character of every text is marked alike, so that the same placeholders are
found and filled, and the same semicolons end statements. -/
theorem doubled_quotes_harmless (text : String) :
    lookahead none text.toList = marks text.toList ∧
    (∀ c, plainPlaces c (lookahead none text.toList) = plainPlaces c (marks text.toList)) ∧
    (∀ filling : Nat → Option String,
      String.ofList (fillMarks (fun i => (filling i).map String.toList) 0
        (lookahead none text.toList)) = fill filling text) ∧
    (trimmedParts (lookahead none text.toList)).map String.ofList = statements text := by
  have alike : lookahead none text.toList = marks text.toList := lookahead_eq_marks none _
  rw [alike]
  exact ⟨rfl, fun _ => rfl, fun _ => rfl, rfl⟩

/-- The second and third quote are one of the literal's characters, the fourth closes it. -/
example : plainPlaces '?' (lookahead none "'''?' ?".toList) = [6] := by decide +kernel

end FluentSql.Scan
