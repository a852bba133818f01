import FluentSql.Proofs.ScriptParts
import Mathlib.Algebra.GroupWithZero.Nat

/-!
# Scripts cut into statements

A script is cut at its plain semicolons. The reader is at the top level on
both sides of a plain semicolon, so it reads every part as if it stood alone,
also the last one, which may end inside a literal or after a backslash. The
blanks that are trimmed from a part leave the reader where it is. So a
statement splits to itself, and placeholders and visible characters of a
script are those of its statements.
-/

set_option autoImplicit false

namespace FluentSql

/-! ## Trimming -/

namespace Text

def visible (cs : List Char) : List Char :=
  cs.filter fun c => !isBlank c

structure IsTrimmed (cs : List Char) : Prop where
  first : ∀ c ∈ cs.head?, isBlank c = false
  last : ∀ c ∈ cs.getLast?, isBlank c = false

theorem visible_append (xs ys : List Char) : visible (xs ++ ys) = visible xs ++ visible ys :=
  List.filter_append _ _

theorem visible_blanks {cs : List Char} (blank : ∀ c ∈ cs, isBlank c = true) : visible cs = [] := by
  simpa [visible] using blank

theorem visible_trimChars (cs : List Char) : visible (trimChars cs) = visible cs := by
  obtain ⟨lead, trail, whole, leading, trailing⟩ := trimChars_between cs
  have parts := congrArg visible whole
  rw [visible_append, visible_append, visible_blanks leading, visible_blanks trailing,
    List.append_nil, List.nil_append] at parts
  exact parts.symm

theorem trimEnd_last (cs : List Char) : ∀ c ∈ (trimEnd cs).getLast?, isBlank c = false := by
  induction cs with
  | nil => simp [trimEnd]
  | cons c cs ih =>
    cases kept : trimEnd cs with
    | nil =>
      by_cases blank : isBlank c = true
      · simp [trimEnd, kept, blank]
      · simp [trimEnd, kept, blank]
    | cons d ds =>
      have same : (trimEnd (c :: cs)).getLast? = (trimEnd cs).getLast? := by
        simp [trimEnd, kept]
      rw [same]
      exact ih

theorem isTrimmed_trimChars (cs : List Char) : IsTrimmed (trimChars cs) := by
  refine ⟨?_, trimEnd_last _⟩
  rw [trimChars]
  cases start : trimStart cs with
  | nil => simp [trimEnd]
  | cons c rest =>
    have here : isBlank c = false := by
      have first := List.head?_dropWhile_not isBlank cs
      rw [← trimStart, start] at first
      simpa using first
    have head : (trimEnd (c :: rest)).head? = some c := by
      rw [trimEnd]
      cases trimEnd rest <;> simp [here]
    intro d member
    rw [head, Option.mem_some_iff] at member
    rw [← member]
    exact here

theorem IsTrimmed.trimChars_eq {cs : List Char} (h : IsTrimmed cs) : trimChars cs = cs := by
  cases cs with
  | nil => rfl
  | cons c rest =>
    obtain ⟨before, last, whole⟩ :=
      (List.eq_nil_or_concat (c :: rest)).resolve_left (List.cons_ne_nil c rest)
    have ends : isBlank last = false := h.last last (by simp [whole])
    rw [Scan.trimChars_of_start (h.first c rfl), whole, List.concat_eq_append]
    exact Scan.trimEnd_concat ends before

end Text

namespace Scan

/-! ## Cutting -/

/-- Read alone, the text has no plain semicolon. It may be left inside a literal. -/
def Undivided (cs : List Char) : Prop :=
  ∀ m ∈ marks cs, m.isPlain ';' = false

/-- The text is cut into these parts: each but the last starts and ends at the top level, and the
reader meets no further semicolon in any of them. -/
inductive Cut : List Char → List (List Char) → Prop
  | last {cs : List Char} (undivided : Undivided cs) : Cut cs [cs]
  | next {first rest : List Char} {others : List (List Char)} (undivided : Undivided first)
      (closed : IsClosed first) (later : Cut rest others) :
      Cut (first ++ ';' :: rest) (first :: others)

theorem marks_separated {first : List Char} (closed : IsClosed first) (rest : List Char) :
    marks (first ++ ';' :: rest) = marks first ++ State.top.mark ';' :: marks rest :=
  marks_append closed _

theorem parts_undivided {cs : List Char} (h : Undivided cs) : parts (marks cs) = [cs] := by
  rw [parts_of_bare h, marks, State.map_char_marks]

theorem cut_parts (cs : List Char) : Cut cs (parts (marks cs)) := by
  have go (first rest : List Char) (undivided : Undivided first) :
      Cut (first ++ rest) (parts (marks (first ++ rest))) := by
    induction rest generalizing first with
    | nil =>
      rw [List.append_nil, parts_undivided undivided]
      exact .last undivided
    | cons c rest ih =>
      by_cases plain : ((State.top.after first).mark c).isPlain ';' = true
      · obtain ⟨closed, rfl⟩ := State.top_of_isPlain plain
        rw [marks_separated closed, parts_append_separator _ _ (by decide),
          parts_undivided undivided]
        exact .next undivided closed (ih [] (by simp [Undivided, marks, State.marks]))
      · have longer : Undivided (first ++ [c]) := by
          intro m member
          rw [marks, State.marks_append, List.mem_append] at member
          rcases member with earlier | here
          · exact undivided m earlier
          · rw [List.mem_singleton.mp here]
            exact Bool.eq_false_iff.mpr plain
        simpa using ih (first ++ [c]) longer
  exact go [] cs (by simp [Undivided, marks, State.marks])

variable {cs : List Char} {pieces : List (List Char)}

theorem Cut.undivided (h : Cut cs pieces) : ∀ piece ∈ pieces, Undivided piece := by
  induction h with
  | last undivided => simpa using undivided
  | next undivided _ _ ih => exact List.forall_mem_cons.mpr ⟨undivided, ih⟩

theorem Cut.flatten (h : Cut cs pieces) :
    pieces.flatten = ((marks cs).filter fun m => !m.isPlain ';').map Mark.char := by
  have kept {cs : List Char} (undivided : Undivided cs) :
      ((marks cs).filter fun m => !m.isPlain ';').map Mark.char = cs := by
    rw [List.filter_eq_self.mpr fun m member => by simp [undivided m member], marks,
      State.map_char_marks]
  induction h with
  | last undivided => simp [kept undivided]
  | next undivided closed _ ih =>
    have separator : (State.top.mark ';').isPlain ';' = true := by decide
    rw [marks_separated closed, List.filter_append, List.map_append, kept undivided,
      List.filter_cons_of_neg (by simp [separator]), ← ih, List.flatten_cons]

theorem Cut.countMarks (h : Cut cs pieces) :
    (pieces.map fun piece => countMarks (marks piece)).sum = Scan.countMarks (marks cs) := by
  induction h with
  | last _ => simp
  | @next first rest others _ closed _ ih =>
    have separator : Scan.countMarks (State.top.mark ';' :: marks rest) =
        Scan.countMarks (marks rest) := by
      rw [Scan.countMarks, Scan.countMarks, List.countP_cons_of_neg (by decide)]
    rw [marks_separated closed, countMarks_append, separator, List.map_cons, List.sum_cons, ih]

/-! ## Trimming a part -/

theorem closed_of_blank {cs : List Char} (blank : ∀ c ∈ cs, Text.isBlank c = true) :
    IsClosed cs := by
  refine (contained_of_ordinary ?_ : Contained [] cs).closed
  intro c member
  have apart (d : Char) (visible : Text.isBlank d = false) : c ≠ d := by
    rintro rfl
    rw [blank c member] at visible
    cases visible
  refine ⟨apart _ (by decide), ?_, by simp⟩
  rw [Quote.ofChar?, if_neg (apart _ (by decide)), if_neg (apart _ (by decide)),
    if_neg (apart _ (by decide))]

/-- A trimmed text is marked as it was before it was trimmed. -/
theorem marks_trimChars (cs : List Char) :
    ∃ lead trail : List Mark, marks cs = lead ++ marks (Text.trimChars cs) ++ trail ∧
      ∀ m ∈ lead ++ trail, Text.isBlank m.char = true := by
  obtain ⟨lead, trail, whole, leading, trailing⟩ := Text.trimChars_between cs
  have blank (s : State) {text : List Char} (h : ∀ c ∈ text, Text.isBlank c = true) :
      ∀ m ∈ s.marks text, Text.isBlank m.char = true := by
    intro m member
    apply h
    rw [← State.map_char_marks s text]
    exact List.mem_map_of_mem member
  refine ⟨marks lead, (State.top.after (Text.trimChars cs)).marks trail, ?_, ?_⟩
  · have read := congrArg marks whole
    rw [List.append_assoc, marks_append (closed_of_blank leading)] at read
    rw [read, List.append_assoc, marks, marks, State.marks_append, ← marks, ← marks]
  · intro m member
    rcases List.mem_append.mp member with early | late
    · exact blank _ leading m early
    · exact blank _ trailing m late

theorem Undivided.trimChars {cs : List Char} (h : Undivided cs) :
    Undivided (Text.trimChars cs) := by
  obtain ⟨lead, trail, whole, -⟩ := marks_trimChars cs
  intro m member
  exact h m (by simp [whole, member])

theorem countMarks_trimChars (cs : List Char) :
    countMarks (marks (Text.trimChars cs)) = countMarks (marks cs) := by
  obtain ⟨lead, trail, whole, blank⟩ := marks_trimChars cs
  have none {ms : List Mark} (h : ∀ m ∈ ms, Text.isBlank m.char = true) : countMarks ms = 0 := by
    rw [countMarks, List.countP_eq_zero]
    intro m member placeholder
    simp only [isPlaceholder, Mark.isPlain, Bool.and_eq_true, decide_eq_true_eq] at placeholder
    have seen := h m member
    rw [placeholder.1] at seen
    exact absurd seen (by decide)
  have leading := none fun m member => blank m (List.mem_append_left _ member)
  have trailing := none fun m member => blank m (List.mem_append_right _ member)
  rw [whole, countMarks_append, countMarks_append, leading, trailing]
  omega

/-! ## Statements -/

def trimmedPieces (pieces : List (List Char)) : List (List Char) :=
  (pieces.map Text.trimChars).filter fun piece => !piece.isEmpty

theorem visible_trimmedPieces (pieces : List (List Char)) :
    Text.visible (trimmedPieces pieces).flatten = Text.visible pieces.flatten := by
  rw [trimmedPieces, List.flatten_filter_not_isEmpty]
  induction pieces with
  | nil => rfl
  | cons piece pieces ih =>
    rw [List.map_cons, List.flatten_cons, List.flatten_cons, Text.visible_append,
      Text.visible_append, Text.visible_trimChars, ih]

theorem countMarks_trimmedPieces (pieces : List (List Char)) :
    ((trimmedPieces pieces).map fun piece => countMarks (marks piece)).sum =
      (pieces.map fun piece => countMarks (marks piece)).sum := by
  induction pieces with
  | nil => rfl
  | cons piece pieces ih =>
    have same := countMarks_trimChars piece
    rw [trimmedPieces] at ih ⊢
    rw [List.map_cons, List.map_cons, List.sum_cons, ← same, ← ih]
    cases kept : Text.trimChars piece with
    | nil =>
      have none : countMarks (marks []) = 0 := rfl
      simp [none]
    | cons c rest => simp

theorem statements_undivided {cs : List Char} (undivided : Undivided cs)
    (trimmed : Text.IsTrimmed cs) (filled : cs ≠ []) :
    statements (String.ofList cs) = [String.ofList cs] := by
  have kept : cs.isEmpty = false := by simpa using filled
  rw [statements, String.toList_ofList, trimmedParts, parts_undivided undivided, List.map_cons,
    trimmed.trimChars_eq]
  simp [kept]

/-- Splitting a script loses nothing but white space and the plain semicolons, and splits enough:
every statement is visible at both ends and splits to itself alone. Read on their own, the
statements have as many placeholders as the script. -/
theorem split_loses_nothing (script : String) :
    (∀ s ∈ statements script, s ≠ "" ∧ Text.IsTrimmed s.toList ∧ statements s = [s]) ∧
    Text.visible ((statements script).flatMap String.toList) =
      Text.visible (((marks script.toList).filter fun m => !m.isPlain ';').map Mark.char) ∧
    ((statements script).map placeholderCount).sum = placeholderCount script := by
  have cut := cut_parts script.toList
  have split : statements script =
      (trimmedPieces (parts (marks script.toList))).map String.ofList := rfl
  refine ⟨?_, ?_, ?_⟩
  · intro s member
    rw [split] at member
    obtain ⟨piece, kept, rfl⟩ := List.mem_map.mp member
    obtain ⟨trimmed, filled⟩ := List.mem_filter.mp kept
    obtain ⟨whole, inside, rfl⟩ := List.mem_map.mp trimmed
    have present : Text.trimChars whole ≠ [] := by simpa using filled
    have ends := Text.isTrimmed_trimChars whole
    refine ⟨by simpa using present, by rwa [String.toList_ofList], ?_⟩
    exact statements_undivided (cut.undivided whole inside).trimChars ends present
  · rw [split, List.flatMap_map, ← cut.flatten, ← visible_trimmedPieces]
    simp
  · have counts : placeholderCount ∘ String.ofList = fun piece => countMarks (marks piece) := by
      funext piece
      simp [placeholderCount]
    rw [split, List.map_map, counts, countMarks_trimmedPieces, cut.countMarks]
    rfl

/-- A literal that is not closed takes in all that follows, and an escaped semicolon is no cut. -/
example : statements "a \\; ? ;; b = 'x ; ?" = ["a \\; ?", "b = 'x ; ?"] := by decide +kernel

end Scan

end FluentSql
