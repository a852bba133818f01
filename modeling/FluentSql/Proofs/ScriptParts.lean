import FluentSql.Proofs.Contained
import FluentSql.Scan.Statement

/-!
# Scripts split at their statements

A statement's body is contained and begins with no blank. Bodies that are
ended by semicolons and put on lines of their own are split back one by one,
except for the blanks at their ends, which trimming takes.
-/

set_option autoImplicit false

namespace FluentSql.Scan

/-- Text that neither ends a statement nor holds a placeholder. -/
def Unbroken (s : String) : Prop :=
  Contained ['?', ';'] s.toList

instance (s : String) : Decidable (Unbroken s) :=
  inferInstanceAs (Decidable (Contained ['?', ';'] s.toList))

theorem Unbroken.append {s t : String} (hs : Unbroken s) (ht : Unbroken t) : Unbroken (s ++ t) := by
  unfold Unbroken at *
  rw [String.toList_append]
  exact Contained.append hs ht

theorem unbroken_intercalate {separator : String} (hs : Unbroken separator)
    {parts : List String} (hp : ∀ s ∈ parts, Unbroken s) :
    Unbroken (separator.intercalate parts) :=
  contained_intercalate separator parts hs hp

structure Body (s : String) : Prop where
  unbroken : Unbroken s
  start : s.toList.head?.any (fun c => !Text.isBlank c) = true

instance (s : String) : Decidable (Body s) :=
  decidable_of_iff (Unbroken s ∧ s.toList.head?.any (fun c => !Text.isBlank c) = true)
    ⟨fun h => ⟨h.1, h.2⟩, fun h => ⟨h.unbroken, h.start⟩⟩

theorem Body.visible {s : String} (h : Body s) :
    ∃ c rest, s.toList = c :: rest ∧ Text.isBlank c = false := by
  have start := h.start
  cases text : s.toList with
  | nil =>
    rw [text] at start
    cases start
  | cons c rest =>
    rw [text] at start
    exact ⟨c, rest, rfl, by simpa using start⟩

theorem Body.append {s t : String} (hs : Body s) (ht : Unbroken t) : Body (s ++ t) := by
  obtain ⟨c, rest, same, visible⟩ := hs.visible
  constructor
  · exact hs.unbroken.append ht
  · rw [String.toList_append, same]
    simpa using visible

def Ended (s : String) : Prop :=
  ∃ body, s = body ++ ";" ∧ Body body

theorem bodies_of_ended {statements : List String} (h : ∀ s ∈ statements, Ended s) :
    ∃ bodies : List String, statements = bodies.map (· ++ ";") ∧ ∀ body ∈ bodies, Body body := by
  induction statements with
  | nil => exact ⟨[], rfl, by simp⟩
  | cons s rest ih =>
    obtain ⟨body, rfl, first⟩ := h s (by simp)
    obtain ⟨bodies, rfl, others⟩ := ih fun s hs => h s (List.mem_cons_of_mem _ hs)
    exact ⟨body :: bodies, rfl, List.forall_mem_cons.mpr ⟨first, others⟩⟩

/-! ## Trimming -/

theorem trimChars_of_start {c : Char} (h : Text.isBlank c = false) (cs : List Char) :
    Text.trimChars (c :: cs) = Text.trimEnd (c :: cs) := by
  simp [Text.trimChars, Text.trimStart, h]

theorem trimChars_blank {c : Char} (h : Text.isBlank c = true) (cs : List Char) :
    Text.trimChars (c :: cs) = Text.trimChars cs := by
  simp [Text.trimChars, Text.trimStart, h]

theorem trimEnd_ne_nil {c : Char} (h : Text.isBlank c = false) (cs : List Char) :
    Text.trimEnd (c :: cs) ≠ [] := by
  rw [Text.trimEnd]
  split
  · simp [h]
  · exact List.cons_ne_nil _ _

theorem trimEnd_concat {c : Char} (h : Text.isBlank c = false) (cs : List Char) :
    Text.trimEnd (cs ++ [c]) = cs ++ [c] := by
  induction cs with
  | nil => simp [Text.trimEnd, h]
  | cons d cs ih =>
    rw [List.cons_append, Text.trimEnd, ih]
    cases cs <;> rfl

theorem Body.trim_ne_nil {s : String} (h : Body s) : Text.trimChars s.toList ≠ [] := by
  obtain ⟨c, rest, same, visible⟩ := h.visible
  rw [same, trimChars_of_start visible]
  exact trimEnd_ne_nil visible rest

theorem Body.placeholderCount_trim {s : String} (h : Body s) :
    placeholderCount (Text.trim s) = 0 := by
  obtain ⟨c, rest, same, visible⟩ := h.visible
  obtain ⟨blanks, whole, -⟩ := Text.trimEnd_append_blanks s.toList
  have none := h.unbroken.countMarks_eq_zero (by decide)
  rw [whole, marks, State.marks_append, countMarks_append] at none
  have kept : Text.trimChars s.toList = Text.trimEnd s.toList := by
    rw [same, trimChars_of_start visible]
  rw [placeholderCount, Text.trim, String.toList_ofList, kept, marks]
  omega

/-! ## Splitting -/

theorem parts_of_bare {ms : List Mark} (h : ∀ m ∈ ms, m.isPlain ';' = false) :
    parts ms = [ms.map Mark.char] := by
  induction ms with
  | nil => rfl
  | cons m ms ih =>
    have hm := h m (by simp)
    have later := ih fun n hn => h n (List.mem_cons_of_mem _ hn)
    simp [parts, hm, later]

theorem trimmedParts_blank {m : Mark} (plain : m.isPlain ';' = false)
    (blank : Text.isBlank m.char = true) (ms : List Mark) :
    trimmedParts (m :: ms) = trimmedParts ms := by
  rw [trimmedParts, parts, if_neg (by simp [plain])]
  cases found : parts ms with
  | nil => exact absurd found (parts_ne_nil ms)
  | cons first others => simp [trimmedParts, found, trimChars_blank blank]

theorem trimmedParts_body {s : String} (h : Body s) (rest : List Char) :
    trimmedParts (marks (s.toList ++ ';' :: rest)) =
      Text.trimChars s.toList :: trimmedParts (marks rest) := by
  have separator : (State.top.mark ';').isPlain ';' = true := by decide
  have alone : parts (marks s.toList) = [s.toList] := by
    rw [parts_of_bare fun m hm => h.unbroken.bare m hm ';' (by decide), marks,
      State.map_char_marks]
  have after : marks (';' :: rest) = State.top.mark ';' :: marks rest := rfl
  rw [marks_append h.unbroken.closed, after, trimmedParts, parts_append_separator _ _ separator,
    alone]
  have kept : (Text.trimChars s.toList).isEmpty = false := by
    rw [Bool.eq_false_iff, ne_eq, List.isEmpty_iff]
    exact h.trim_ne_nil
  simp [trimmedParts, kept]

theorem statements_body {s : String} (h : Body s) (rest : String) :
    statements (s ++ ";" ++ rest) = Text.trim s :: statements rest := by
  have text : (s ++ ";" ++ rest).toList = s.toList ++ ';' :: rest.toList := by simp
  rw [statements, text, trimmedParts_body h, List.map_cons]
  rfl

theorem statements_lines (bodies : List String) (h : ∀ body ∈ bodies, Body body) :
    statements ("\n".intercalate (bodies.map (· ++ ";"))) = bodies.map Text.trim := by
  have split : trimmedParts (marks ("\n".intercalate (bodies.map (· ++ ";"))).toList) =
      bodies.map fun body => Text.trimChars body.toList := by
    induction bodies with
    | nil => rfl
    | cons body rest ih =>
      have here := h body (by simp)
      have later := ih fun other hother => h other (List.mem_cons_of_mem _ hother)
      cases rest with
      | nil =>
        have nothing : trimmedParts (marks []) = [] := by decide
        have one := trimmedParts_body here []
        simpa [nothing] using one
      | cons next more =>
        have text : ("\n".intercalate ((body :: next :: more).map (· ++ ";"))).toList =
            body.toList ++ ';' :: '\n' ::
              ("\n".intercalate ((next :: more).map (· ++ ";"))).toList := by
          simp [String.intercalate_cons_cons]
        have line (cs : List Char) : marks ('\n' :: cs) = State.top.mark '\n' :: marks cs := rfl
        rw [text, trimmedParts_body here, line,
          trimmedParts_blank (by decide) (by decide), later]
        rfl
  rw [statements, split, List.map_map]
  rfl

end FluentSql.Scan
