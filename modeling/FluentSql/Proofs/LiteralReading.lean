import FluentSql.Proofs.Literals

/-!
# Literals read as the database reads them

A database that takes backslashes as escapes reads a literal up to the first
quote that is neither escaped nor doubled. Where backslashes are doubled in
writing, that is the quote at the end, and what was read is the text that was
written. So no text ends its own literal, and no two texts share one.
-/

set_option autoImplicit false

namespace FluentSql.Scan

/-- The text of a literal from its opening quote on, and what follows the closing one. A backslash
stands for the character after it, and a doubled quote for one quote. -/
def readBody? : List Char → Option (List Char × List Char)
  | '\\' :: c :: rest => (readBody? rest).map fun read => (c :: read.1, read.2)
  | '\'' :: '\'' :: rest => (readBody? rest).map fun read => ('\'' :: read.1, read.2)
  | '\'' :: rest => some ([], rest)
  | c :: rest => (readBody? rest).map fun read => (c :: read.1, read.2)
  | [] => none

def readLiteral? : List Char → Option (String × List Char)
  | '\'' :: rest => (readBody? rest).map fun read => (String.ofList read.1, read.2)
  | _ => none

theorem readBody?_close {rest : List Char} (ends : rest.head? ≠ some '\'') :
    readBody? ('\'' :: rest) = some ([], rest) := by
  cases rest with
  | nil => rfl
  | cons c rest =>
    rw [readBody?]
    rintro tail ⟨⟩
    simp at ends

theorem readBody?_other {c : Char} (quote : c ≠ '\'') (backslash : c ≠ '\\') (rest : List Char) :
    readBody? (c :: rest) = (readBody? rest).map fun read => (c :: read.1, read.2) := by
  rw [readBody?]
  · exact fun _ _ same => absurd same backslash
  · exact fun _ same => absurd same quote
  · exact fun same => absurd same quote

theorem readBody?_textBody {style : LiteralStyle} (doubles : style.doublesBackslash = true)
    {rest : List Char} (ends : rest.head? ≠ some '\'') (cs : List Char) :
    readBody? (style.textBody cs ++ '\'' :: rest) = some (cs, rest) := by
  induction cs with
  | nil => exact readBody?_close ends
  | cons c cs ih =>
    by_cases quote : c = '\''
    · subst quote
      rw [LiteralStyle.textBody, if_pos rfl, List.cons_append, List.cons_append, readBody?, ih]
      rfl
    · by_cases backslash : c = '\\'
      · subst backslash
        rw [LiteralStyle.textBody, if_neg quote, if_pos (by simp [doubles]), List.cons_append,
          List.cons_append, readBody?, ih]
        rfl
      · rw [LiteralStyle.textBody, if_neg quote, if_neg (by simp [backslash]), List.cons_append,
          readBody?_other quote backslash, ih]
        rfl

theorem readLiteral?_text {style : LiteralStyle} (doubles : style.doublesBackslash = true)
    (s : String) {rest : List Char} (ends : rest.head? ≠ some '\'') :
    readLiteral? ((style.text s).toList ++ rest) = some (s, rest) := by
  have body : (style.text s).toList ++ rest =
      '\'' :: (style.textBody s.toList ++ '\'' :: rest) := by
    simp [toList_text]
  rw [body, readLiteral?, readBody?_textBody doubles ends]
  simp

theorem text_injective {style : LiteralStyle} (doubles : style.doublesBackslash = true) :
    Function.Injective style.text := by
  intro s t same
  have ends : ([] : List Char).head? ≠ some '\'' := by simp
  have read (u : String) : readLiteral? (style.text u).toList = some (u, []) := by
    simpa using readLiteral?_text doubles u ends
  have both := read s
  rw [same, read t] at both
  simpa using both.symm

theorem marks_text {style : LiteralStyle} (doubles : style.doublesBackslash = true) (s : String)
    (rest : List Char) :
    marks ((style.text s).toList ++ rest) =
      (style.text s).toList.map (fun c => ⟨c, true⟩) ++ marks rest := by
  have inside : marks (style.text s).toList = (style.text s).toList.map fun c => ⟨c, true⟩ :=
    calc marks (style.text s).toList
      _ = (marks (style.text s).toList).map fun m => ⟨m.char, true⟩ := by
        conv => lhs; rw [← List.map_id (marks (style.text s).toList)]
        apply List.map_congr_left
        intro m member
        rw [← inside_text doubles s m member]
        rfl
      _ = (style.text s).toList.map fun c => ⟨c, true⟩ := by
        conv => rhs; rw [← State.map_char_marks .top (style.text s).toList, List.map_map]
        rfl
  rw [marks_append (closed_text doubles s), inside]

/-- A literal of MySQL is closed, whatever follows it: the reader is inside it from its first
character to its last and at the top level behind it. It ends at its own last quote and nowhere
before, and reads as its text; so different texts have different literals. -/
theorem mysql_literal_reads_back (s : String) :
    (∀ rest, marks ((LiteralStyle.mysql.text s).toList ++ rest) =
      (LiteralStyle.mysql.text s).toList.map (fun c => ⟨c, true⟩) ++ marks rest) ∧
    State.top.after (LiteralStyle.mysql.text s).toList = .top ∧
    (∀ rest, rest.head? ≠ some '\'' →
      readLiteral? ((LiteralStyle.mysql.text s).toList ++ rest) = some (s, rest)) ∧
    ∀ t, LiteralStyle.mysql.text s = LiteralStyle.mysql.text t → s = t := by
  have doubles : LiteralStyle.mysql.doublesBackslash = true := rfl
  refine ⟨marks_text doubles s, closed_text doubles s, ?_, ?_⟩
  · intro rest ends
    exact readLiteral?_text doubles s ends
  · intro t same
    exact text_injective doubles same

theorem hostile_literals_read_back :
    LiteralStyle.mysql.text "\\" = "'\\\\'" ∧ "; --".toList.head? ≠ some '\'' ∧
    readLiteral? ((LiteralStyle.mysql.text "\\").toList ++ "; --".toList) =
      some ("\\", "; --".toList) ∧
    LiteralStyle.mysql.text "\\' OR '1" = "'\\\\'' OR ''1'" ∧ ",".toList.head? ≠ some '\'' ∧
    readLiteral? ((LiteralStyle.mysql.text "\\' OR '1").toList ++ ",".toList) =
      some ("\\' OR '1", ",".toList) := by
  have semicolon : "; --".toList.head? ≠ some '\'' := by decide
  have comma : ",".toList.head? ≠ some '\'' := by decide
  exact ⟨by decide +kernel, semicolon, (mysql_literal_reads_back _).2.2.1 _ semicolon,
    by decide +kernel, comma, (mysql_literal_reads_back _).2.2.1 _ comma⟩

end FluentSql.Scan
