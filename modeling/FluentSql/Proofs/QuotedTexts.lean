import FluentSql.Dialect
import FluentSql.Proofs.TextReading
import FluentSql.Schema.Reflection

/-!
# Literals read back

A description gives texts as literals. Reading one takes the quotes away and
makes the doubled ones single, which undoes all that a writer does to quotes.
It leaves backslashes alone, so a text comes back as it was written unless the
writer doubled a backslash in it.
-/

set_option autoImplicit false

namespace FluentSql

namespace LiteralStyle

/-- The text that a literal is read back as: each backslash as often as it was written. -/
def readBack (style : LiteralStyle) : List Char → List Char
  | [] => []
  | c :: cs =>
    if c = '\\' && style.doublesBackslash then '\\' :: '\\' :: style.readBack cs
    else c :: style.readBack cs

variable {style : LiteralStyle}

theorem length_readBack (doubles : style.doublesBackslash = true) (cs : List Char) :
    (style.readBack cs).length = cs.length + cs.count '\\' := by
  induction cs with
  | nil => rfl
  | cons c cs ih =>
    by_cases backslash : c = '\\'
    · simp only [readBack, backslash, doubles, decide_true, Bool.and_true, if_true,
        List.length_cons, List.count_cons_self, ih]
      omega
    · simp only [readBack, backslash, decide_false, Bool.false_and, Bool.false_eq_true, if_false,
        List.length_cons, List.count_cons_of_ne backslash, ih]
      omega

theorem readBack_eq_iff (cs : List Char) :
    style.readBack cs = cs ↔ style.doublesBackslash = false ∨ '\\' ∉ cs := by
  constructor
  · intro same
    cases doubles : style.doublesBackslash with
    | false => exact .inl rfl
    | true =>
      have length := congrArg List.length same
      rw [length_readBack doubles] at length
      exact .inr (List.count_eq_zero.mp (by omega))
  · intro kept
    induction cs with
    | nil => rfl
    | cons c cs ih =>
      have later := ih (kept.imp_right fun none member => none (List.mem_cons_of_mem _ member))
      have single : ¬((decide (c = '\\') && style.doublesBackslash) = true) := by
        rw [Bool.and_eq_true, decide_eq_true_eq]
        rintro ⟨rfl, doubles⟩
        rcases kept with keeps | none
        · rw [keeps] at doubles
          cases doubles
        · exact none List.mem_cons_self
      rw [readBack, if_neg single, later]

end LiteralStyle

namespace Description

variable {style : LiteralStyle} {c : Char} {rest : List Char}

/-! ## One text -/

theorem undoubled_cons (other : c ≠ '\'') (rest : List Char) :
    undoubled (c :: rest) = c :: undoubled rest := by
  rw [undoubled]
  exact fun _ same _ => other same

theorem untilQuote_cons (other : c ≠ '\'') (rest : List Char) :
    untilQuote (c :: rest) = (untilQuote rest).map fun r => (c :: r.1, r.2) := by
  rw [untilQuote]
  · exact fun _ same _ => other same
  · exact other

theorem untilQuote_close (ends : rest.head? ≠ some '\'') :
    untilQuote ('\'' :: rest) = some ([], rest) := by
  rw [untilQuote]
  rintro tail rfl
  simp at ends

theorem undoubled_textBody (style : LiteralStyle) (cs : List Char) :
    undoubled (style.textBody cs) = style.readBack cs := by
  induction cs with
  | nil => rfl
  | cons c cs ih =>
    rw [LiteralStyle.textBody, LiteralStyle.readBack, ← ih]
    by_cases quote : c = '\''
    · subst quote
      rfl
    · rw [if_neg quote]
      split
      · rw [undoubled_cons (by decide), undoubled_cons (by decide)]
      · rw [undoubled_cons quote]

theorem untilQuote_textBody (style : LiteralStyle) (cs : List Char)
    (ends : rest.head? ≠ some '\'') :
    untilQuote (style.textBody cs ++ '\'' :: rest) = some (style.textBody cs, rest) := by
  induction cs with
  | nil => exact untilQuote_close ends
  | cons c cs ih =>
    rw [LiteralStyle.textBody]
    by_cases quote : c = '\''
    · rw [if_pos quote, List.cons_append, List.cons_append, untilQuote, ih]
    · rw [if_neg quote]
      split
      · rw [List.cons_append, List.cons_append, untilQuote_cons (by decide),
          untilQuote_cons (by decide), ih]
        rfl
      · rw [List.cons_append, untilQuote_cons quote, ih]
        rfl

theorem withoutQuotes_text (style : LiteralStyle) (s : String) :
    withoutQuotes (style.text s).toList = style.readBack s.toList := by
  rw [LiteralStyle.text, String.toList_ofList, ← undoubled_textBody]
  simp [withoutQuotes]

/-! ## The texts of a list -/

theorem quotedTexts_cons (other : c ≠ '\'') (rest : List Char) :
    quotedTexts (c :: rest) = quotedTexts rest := by
  rw [quotedTexts]
  exact other

theorem quotedTexts_text (style : LiteralStyle) (s : String) (ends : rest.head? ≠ some '\'') :
    quotedTexts ((style.text s).toList ++ rest) =
      String.ofList (style.readBack s.toList) :: quotedTexts rest := by
  have found := untilQuote_textBody style s.toList ends
  rw [LiteralStyle.text, String.toList_ofList, List.cons_append, List.cons_append,
    List.append_assoc, List.singleton_append, quotedTexts]
  split
  · next before after cut =>
    rw [found, Option.some.injEq, Prod.mk.injEq] at cut
    obtain ⟨rfl, rfl⟩ := cut
    rw [undoubled_textBody]
  · next none =>
    rw [found] at none
    cases none

theorem quotedTexts_commas (style : LiteralStyle) (texts : List String) :
    quotedTexts (", ".intercalate (texts.map style.text)).toList =
      texts.map fun s => String.ofList (style.readBack s.toList) := by
  have others (texts : List String) :
      quotedTexts (texts.flatMap fun s => ", ".toList ++ (style.text s).toList) =
        texts.map fun s => String.ofList (style.readBack s.toList) := by
    induction texts with
    | nil => simp [quotedTexts]
    | cons s texts ih =>
      have comma (cs : List Char) : quotedTexts (", ".toList ++ cs) = quotedTexts cs := by
        show quotedTexts (',' :: ' ' :: cs) = quotedTexts cs
        rw [quotedTexts_cons (by decide), quotedTexts_cons (by decide)]
      rw [List.flatMap_cons, List.append_assoc, comma, quotedTexts_text style s, ih,
        List.map_cons]
      cases texts <;> simp
  cases texts with
  | nil => simp [quotedTexts]
  | cons s texts =>
    rw [Reading.toList_commas, quotedTexts_text style s, others, List.map_cons]
    cases texts <;> simp

end Description

end FluentSql
