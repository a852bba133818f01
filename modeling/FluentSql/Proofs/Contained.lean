import FluentSql.Scan.Placeholder

/-!
# Texts that keep to themselves

A text is contained when the reader goes through it from the top level back
to the top level and meets none of the marked characters plain. Contained
texts may be put side by side in any number. Ordinary characters are
contained in any order.
-/

set_option autoImplicit false

namespace FluentSql.Scan

structure Contained (marked cs : List Char) : Prop where
  closed : IsClosed cs
  bare : ∀ m ∈ marks cs, ∀ c ∈ marked, m.isPlain c = false

instance (marked cs : List Char) : Decidable (Contained marked cs) :=
  decidable_of_iff
    (IsClosed cs ∧ ((marks cs).all fun m => marked.all fun c => !m.isPlain c) = true)
    ⟨fun h => ⟨h.1, by simpa using h.2⟩, fun h => ⟨h.closed, by simpa using h.bare⟩⟩

theorem isPlain_of_inside {m : Mark} (h : m.inside = true) (c : Char) : m.isPlain c = false := by
  simp [Mark.isPlain, h]

theorem State.top_of_isPlain {s : State} {c d : Char} (h : (s.mark c).isPlain d = true) :
    s = .top ∧ c = d := by
  obtain ⟨quote, escaped⟩ := s
  simp only [Mark.isPlain, State.mark, Bool.and_eq_true, Bool.not_eq_true', Bool.or_eq_false_iff,
    Option.isSome_eq_false_iff, Option.isNone_iff_eq_none] at h
  obtain ⟨same, ⟨⟨unescaped, -⟩, unquoted⟩, -⟩ := h
  exact ⟨by rw [unescaped, unquoted]; rfl, of_decide_eq_true same⟩

theorem contained_nil (marked : List Char) : Contained marked [] :=
  ⟨rfl, by simp [marks, State.marks]⟩

theorem Contained.append {marked xs ys : List Char} (hx : Contained marked xs)
    (hy : Contained marked ys) : Contained marked (xs ++ ys) := by
  constructor
  · exact hx.closed.append hy.closed
  · intro m hm
    rw [marks_append hx.closed, List.mem_append] at hm
    rcases hm with hm | hm
    · exact hx.bare m hm
    · exact hy.bare m hm

theorem Contained.intercalate {marked separator : List Char} (hs : Contained marked separator)
    (parts : List (List Char)) (hp : ∀ cs ∈ parts, Contained marked cs) :
    Contained marked (separator.intercalate parts) := by
  induction parts with
  | nil => exact contained_nil marked
  | cons first rest ih =>
    have hf := hp first (by simp)
    cases rest with
    | nil => simpa using hf
    | cons second rest =>
      have hr := ih (fun cs hcs => hp cs (by simp [hcs]))
      simpa using hf.append (hs.append hr)

theorem contained_intercalate {marked : List Char} (separator : String) (parts : List String)
    (hs : Contained marked separator.toList) (hp : ∀ s ∈ parts, Contained marked s.toList) :
    Contained marked (separator.intercalate parts).toList := by
  rw [String.toList_intercalate]
  apply hs.intercalate
  intro cs hcs
  obtain ⟨s, hs, rfl⟩ := List.mem_map.mp hcs
  exact hp s hs

/-! ## Counting -/

theorem Contained.countMarks_eq_zero {marked cs : List Char} (h : Contained marked cs)
    (hq : '?' ∈ marked) : countMarks (marks cs) = 0 := by
  rw [countMarks, List.countP_eq_zero]
  intro m hm
  rw [isPlaceholder, h.bare m hm '?' hq]
  decide

theorem Contained.fillMarks_eq {marked cs : List Char} (h : Contained marked cs)
    (hq : '?' ∈ marked) (filling : Nat → Option (List Char)) (index : Nat) :
    fillMarks filling index (marks cs) = cs := by
  have untouched : ∀ ms : List Mark, (∀ m ∈ ms, isPlaceholder m = false) →
      fillMarks filling index ms = ms.map Mark.char := by
    intro ms hms
    induction ms with
    | nil => rfl
    | cons m ms ih =>
      have hm := hms m (by simp)
      simp [fillMarks, hm, ih (fun n hn => hms n (by simp [hn]))]
  rw [untouched _ (fun m hm => h.bare m hm '?' hq)]
  exact State.map_char_marks _ cs

/-! ## Ordinary characters -/

def Ordinary (marked : List Char) (c : Char) : Prop :=
  c ≠ '\\' ∧ Quote.ofChar? c = none ∧ c ∉ marked

theorem contained_of_ordinary {marked cs : List Char} (h : ∀ c ∈ cs, Ordinary marked c) :
    Contained marked cs := by
  induction cs with
  | nil => exact contained_nil marked
  | cons c cs ih =>
    obtain ⟨hb, hq, hm⟩ := h c (by simp)
    have hr := ih (fun d hd => h d (by simp [hd]))
    have single : Contained marked [c] := by
      constructor
      · simp [IsClosed, State.after, State.next, State.top, hb, hq]
      · intro m hmem d hd
        have hne : c ≠ d := fun same => hm (same ▸ hd)
        simp only [marks, State.marks, List.mem_singleton] at hmem
        simp [hmem, Mark.isPlain, State.mark, hne]
    exact single.append hr

end FluentSql.Scan
