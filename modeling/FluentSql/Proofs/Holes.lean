import FluentSql.Inline
import FluentSql.Proofs.Contained
import FluentSql.Query.Fragment

/-!
# Filling the holes of a fragment

A fragment whose texts are all contained has one placeholder for each hole
and no other, so filling the placeholders in order with the fragment's own
values puts each value's literal into its hole. A literal is never read again,
so nothing is asked of the values.
-/

set_option autoImplicit false

namespace FluentSql

/-- A text that can be put anywhere and has no placeholder of its own. -/
abbrev Bare (s : String) : Prop :=
  Scan.Contained ['?'] s.toList

theorem Bare.append {s t : String} (hs : Bare s) (ht : Bare t) : Bare (s ++ t) := by
  rw [Bare, String.toList_append]
  exact Scan.Contained.append hs ht

theorem bare_intercalate (separator : String) (hs : Bare separator) (parts : List String)
    (hp : ∀ s ∈ parts, Bare s) : Bare (separator.intercalate parts) :=
  Scan.contained_intercalate separator parts hs hp

def spacedTexts (parts : List String) : String :=
  " ".intercalate (parts.filter fun s => !s.isEmpty)

namespace Fragment

def Contained (f : Fragment) : Prop :=
  ∀ text, Piece.sql text ∈ f → Bare text

theorem contained_nil : Contained [] := by
  intro text h
  simp at h

theorem Contained.sql {f : Fragment} (hf : Contained f) {text : String} (ht : Bare text) :
    Contained (.sql text :: f) := by
  intro t h
  rcases List.mem_cons.mp h with h | h
  · obtain rfl := Piece.sql.inj h
    exact ht
  · exact hf t h

theorem Contained.hole {f : Fragment} (hf : Contained f) (v : Value) :
    Contained (.hole v :: f) := by
  intro t h
  rcases List.mem_cons.mp h with h | h
  · cases h
  · exact hf t h

theorem Contained.append {f g : Fragment} (hf : Contained f) (hg : Contained g) :
    Contained (f ++ g) := by
  intro text h
  rcases List.mem_append.mp h with h | h
  · exact hf text h
  · exact hg text h

theorem contained_joined (separator : String) (hs : Bare separator) (fs : List Fragment)
    (hf : ∀ f ∈ fs, Contained f) : Contained (joined separator fs) := by
  induction fs with
  | nil => intro text h; simp [joined] at h
  | cons f rest ih =>
    have first := hf f (by simp)
    cases rest with
    | nil => exact first
    | cons g rest =>
      have others := ih (fun x hx => hf x (by simp [hx]))
      exact first.append (others.sql hs)

theorem contained_spaced (fs : List Fragment) (hf : ∀ f ∈ fs, Contained f) :
    Contained (spaced fs) := by
  apply contained_joined _ (by decide)
  intro f h
  exact hf f (List.mem_filter.mp h).1

theorem contained_holes (values : List Value) : Contained (holes values) := by
  apply contained_joined _ (by decide)
  intro f h
  obtain ⟨v, -, rfl⟩ := List.mem_map.mp h
  exact contained_nil.hole v

theorem placeholderCount_sql (f : Fragment) (h : Contained f) :
    Scan.placeholderCount f.sql = f.bindings.length := by
  induction f with
  | nil => rfl
  | cons p f ih =>
    have rest := ih (fun text ht => h text (by simp [ht]))
    cases p with
    | sql text =>
      have ht := h text (by simp)
      simp only [Scan.placeholderCount, sql, String.toList_append, Scan.marks_append ht.closed,
        Scan.countMarks_append, ht.countMarks_eq_zero (by simp), bindings] at rest ⊢
      omega
    | hole v =>
      have hq : Scan.IsClosed "?".toList := by decide
      have one : Scan.countMarks (Scan.marks "?".toList) = 1 := by decide
      simp only [Scan.placeholderCount, sql, String.toList_append, Scan.marks_append hq,
        Scan.countMarks_append, one, bindings, List.length_cons] at rest ⊢
      omega

theorem fillMarks_sql (style : LiteralStyle) (f : Fragment) (h : Contained f)
    (before : List Value) :
    Scan.fillMarks (fun i => ((before ++ f.bindings)[i]?.map style.value).map String.toList)
      before.length (Scan.marks f.sql.toList) = (f.inlined style).toList := by
  induction f generalizing before with
  | nil => rfl
  | cons p f ih =>
    have hrest : Contained f := fun text ht => h text (by simp [ht])
    cases p with
    | sql text =>
      have ht := h text (by simp)
      rw [sql, String.toList_append, Scan.marks_append ht.closed, Scan.fillMarks_append,
        ht.fillMarks_eq (by simp), ht.countMarks_eq_zero (by simp), Nat.add_zero, inlined,
        String.toList_append]
      congr 1
      exact ih hrest before
    | hole v =>
      have hq : Scan.IsClosed "?".toList := by decide
      have one : Scan.marks "?".toList = [⟨'?', false⟩] := by decide
      have rest := ih hrest (before ++ [v])
      simp only [List.length_append, List.length_cons, List.length_nil, Nat.zero_add,
        List.append_assoc, List.cons_append, List.nil_append] at rest
      rw [sql, String.toList_append, Scan.marks_append hq, one, List.cons_append,
        List.nil_append, Scan.fillMarks, if_pos (by decide), bindings, rest, inlined,
        String.toList_append]
      simp

theorem inline_sql (style : LiteralStyle) (f : Fragment) (h : Contained f) :
    style.inline f.sql f.bindings = f.inlined style := by
  have filled := fillMarks_sql style f h []
  rw [LiteralStyle.inline, Scan.fill]
  simp only [List.nil_append, List.length_nil] at filled
  rw [filled, String.ofList_toList]

/-! ## Reading fragments with their values -/

theorem sql_joined (separator : String) (fs : List Fragment) :
    sql (joined separator fs) = separator.intercalate (fs.map sql) := by
  induction fs with
  | nil => simp [joined, sql]
  | cons f rest ih =>
    cases rest with
    | nil => simp [joined]
    | cons g rest =>
      rw [joined, sql_append, sql, ih, List.map_cons, List.map_cons, List.map_cons,
        String.intercalate_cons_cons, String.append_assoc]

theorem sql_holes (values : List Value) :
    sql (holes values) = ", ".intercalate (values.map fun _ => "?") := by
  rw [holes, sql_joined, List.map_map]
  rfl

theorem inlined_joined (style : LiteralStyle) (separator : String) (fs : List Fragment) :
    inlined style (joined separator fs) = separator.intercalate (fs.map (inlined style)) := by
  induction fs with
  | nil => simp [joined, inlined]
  | cons f rest ih =>
    cases rest with
    | nil => simp [joined]
    | cons g rest =>
      rw [joined, inlined_append, inlined, ih, List.map_cons, List.map_cons, List.map_cons,
        String.intercalate_cons_cons, String.append_assoc]

theorem inlined_holes (style : LiteralStyle) (values : List Value) :
    inlined style (holes values) = ", ".intercalate (values.map style.value) := by
  rw [holes, inlined_joined, List.map_map]
  congr 1
  apply List.map_congr_left
  intro v _
  simp [inlined]

theorem read_spaced {read : Fragment → String} (fs : List Fragment)
    (joins : ∀ fs, read (joined " " fs) = " ".intercalate (fs.map read))
    (same : ∀ f ∈ fs, f.isEmpty = (read f).isEmpty) :
    read (spaced fs) = spacedTexts (fs.map read) := by
  rw [spaced, joins, spacedTexts, List.filter_map]
  congr 2
  apply List.filter_congr
  intro f hf
  simp [same f hf]

theorem sql_spaced (fs : List Fragment) (same : ∀ f ∈ fs, f.isEmpty = f.sql.isEmpty) :
    sql (spaced fs) = spacedTexts (fs.map sql) :=
  read_spaced fs (sql_joined " ") same

theorem inlined_spaced (style : LiteralStyle) (fs : List Fragment)
    (same : ∀ f ∈ fs, f.isEmpty = (inlined style f).isEmpty) :
    inlined style (spaced fs) = spacedTexts (fs.map (inlined style)) :=
  read_spaced fs (inlined_joined style " ") same

theorem sql_ofText (text : String) : sql (ofText text) = text := by
  unfold ofText
  split
  · next h => rw [String.isEmpty_iff.mp h, sql]
  · simp [sql]

theorem ofText_isEmpty (text : String) : (ofText text).isEmpty = text.isEmpty := by
  unfold ofText
  split
  · next h => simp [h]
  · next h => simp [h]

theorem inlined_ofText (style : LiteralStyle) (text : String) :
    inlined style (ofText text) = text := by
  unfold ofText
  split
  · next h => rw [String.isEmpty_iff.mp h, inlined]
  · simp [inlined]

theorem isEmpty_ofText (style : LiteralStyle) (text : String) :
    (ofText text).isEmpty = (inlined style (ofText text)).isEmpty := by
  rw [inlined_ofText, ofText_isEmpty]

theorem contained_ofText {text : String} (h : Bare text) : Contained (ofText text) := by
  unfold ofText
  split
  · exact contained_nil
  · exact contained_nil.sql h

theorem bindings_ofText (text : String) : bindings (ofText text) = [] := by
  unfold ofText
  split <;> rfl

theorem bindings_spaced (fs : List Fragment) : bindings (spaced fs) = fs.flatMap bindings := by
  rw [spaced, bindings_joined]
  induction fs with
  | nil => rfl
  | cons f rest ih =>
    cases f with
    | nil => simpa [bindings] using ih
    | cons p f => simpa using ih

/-- The fragment holds exactly these values, and reads as this text in every style. -/
structure Fills (f : Fragment) (values : List Value) (written : LiteralStyle → String) : Prop where
  contained : f.Contained
  bindings : f.bindings = values
  inlined : ∀ style, f.inlined style = written style

theorem Fills.placeholderCount {f : Fragment} {values : List Value}
    {written : LiteralStyle → String} (h : Fills f values written) :
    Scan.placeholderCount f.sql = values.length := by
  rw [placeholderCount_sql f h.contained, h.bindings]

theorem Fills.inline {f : Fragment} {values : List Value} {written : LiteralStyle → String}
    (h : Fills f values written) (style : LiteralStyle) :
    style.inline f.sql values = written style := by
  rw [← h.bindings, inline_sql style f h.contained, h.inlined style]

end Fragment

end FluentSql
