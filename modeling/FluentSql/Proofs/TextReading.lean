import FluentSql.Proofs.Holes
import FluentSql.Query.Keyword

/-!
# Texts read from the left

A written thing is readable if its text, followed by any more text of some
form, leaves no choice: two such texts are equal only if the things are, and
what follows them is. A token has no breaks and is readable up to the break or
the end that follows it; a list is readable if its members are, and if what
follows the list cannot begin one more member.
-/

set_option autoImplicit false

namespace FluentSql.Reading

/-! ## Breaks -/

def isBreak (c : Char) : Bool :=
  Text.isBlank c || [',', '(', ')', '?'].contains c

def IsToken (s : String) : Prop :=
  ∀ c ∈ s.toList, isBreak c = false

instance (s : String) : Decidable (IsToken s) :=
  decidable_of_iff (s.toList.all (!isBreak ·) = true) (by simp [IsToken])

def Stops (rest : List Char) : Prop :=
  ∀ c ∈ rest.head?, isBreak c = true

theorem stops_blank (rest : List Char) : Stops (' ' :: rest) := by
  simp only [Stops, List.head?_cons, Option.mem_some_iff, forall_eq']
  decide

theorem stops_comma (rest : List Char) : Stops (',' :: rest) := by
  simp only [Stops, List.head?_cons, Option.mem_some_iff, forall_eq']
  decide

theorem takeWhile_token {s : String} (hs : IsToken s) {rest : List Char} (stop : Stops rest) :
    (s.toList ++ rest).takeWhile (!isBreak ·) = s.toList := by
  rw [List.takeWhile_append_of_pos fun c hc => by simp [hs c hc]]
  cases rest with
  | nil => simp
  | cons c rest =>
    have broken : isBreak c = true := stop c rfl
    simp [broken]

/-! ## Readable things -/

variable {α β : Type}

/-- What is written tells `key` of it and where it ends, before a text that `follow` allows. -/
def Readable (text : α → List Char) (key : α → β) (ok : α → Prop)
    (follow : List Char → Prop) : Prop :=
  ∀ ⦃a b⦄, ok a → ok b → ∀ ⦃r s⦄, follow r → follow s → text a ++ r = text b ++ s →
    key a = key b ∧ r = s

theorem readable_token : Readable String.toList id IsToken Stops := by
  intro a b ha hb r s hr hs same
  have first := congrArg (List.takeWhile (!isBreak ·)) same
  rw [takeWhile_token ha hr, takeWhile_token hb hs] at first
  rw [first] at same
  exact ⟨String.toList_injective first, List.append_cancel_left same⟩

theorem readable_of_injective {text : α → String} (tokens : ∀ a, IsToken (text a))
    (distinct : Function.Injective text) :
    Readable (fun a => (text a).toList) id (fun _ => True) Stops := by
  intro a b _ _ r s hr hs same
  obtain ⟨texts, rests⟩ := readable_token (tokens a) (tokens b) hr hs same
  exact ⟨distinct texts, rests⟩

theorem follow_flatMap {text : α → List Char} {ok : α → Prop} {follow opens : List Char → Prop}
    (first : ∀ a, ok a → ∀ r, opens (text a ++ r)) (after : ∀ r, opens r → follow r)
    {as : List α} (has : ∀ a ∈ as, ok a) {r : List Char} (hr : follow r) :
    follow (as.flatMap text ++ r) := by
  cases as with
  | nil => exact hr
  | cons a as =>
    rw [List.flatMap_cons, List.append_assoc]
    exact after _ (first a (has a (by simp)) _)

/-- Where a list ends no further member may begin. -/
theorem Readable.many {text : α → List Char} {key : α → β} {ok : α → Prop}
    {follow opens : List Char → Prop} (member : Readable text key ok follow)
    (first : ∀ a, ok a → ∀ r, opens (text a ++ r)) (after : ∀ r, opens r → follow r) :
    Readable (List.flatMap text) (List.map key) (fun as => ∀ a ∈ as, ok a)
      (fun r => follow r ∧ ¬ opens r) := by
  intro as bs has hbs r s hr hs same
  induction as generalizing bs with
  | nil =>
    cases bs with
    | nil => exact ⟨rfl, same⟩
    | cons b bs =>
      rw [List.flatMap_cons, List.append_assoc] at same
      have opened := first b (hbs b (by simp)) (bs.flatMap text ++ s)
      rw [← same] at opened
      exact absurd opened hr.2
  | cons a as ih =>
    rw [List.flatMap_cons, List.append_assoc] at same
    have ha := has a (by simp)
    cases bs with
    | nil =>
      have opened := first a ha (as.flatMap text ++ r)
      rw [same] at opened
      exact absurd opened hs.2
    | cons b bs =>
      rw [List.flatMap_cons, List.append_assoc] at same
      rw [List.forall_mem_cons] at has hbs
      obtain ⟨keys, rests⟩ := member ha hbs.1 (follow_flatMap first after has.2 hr.1)
        (follow_flatMap first after hbs.2 hs.1) same
      obtain ⟨others, ends⟩ := ih has.2 hbs.2 rests
      exact ⟨by rw [List.map_cons, List.map_cons, keys, others], ends⟩

theorem Readable.after {text : α → List Char} {key : α → β} {ok : α → Prop}
    {follow : List Char → Prop} (member : Readable text key ok follow) (lead : List Char) :
    Readable (fun a => lead ++ text a) key ok follow := by
  intro a b ha hb r s hr hs same
  rw [List.append_assoc, List.append_assoc] at same
  exact member ha hb hr hs (List.append_cancel_left same)

/-! ## Lists between commas -/

theorem toList_intercalate_cons (separator first : String) (rest : List String) :
    (separator.intercalate (first :: rest)).toList =
      first.toList ++ rest.flatMap fun s => separator.toList ++ s.toList := by
  induction rest generalizing first with
  | nil => simp
  | cons next rest ih =>
    rw [String.intercalate_cons_cons, String.toList_append, String.toList_append, ih,
      List.flatMap_cons, List.append_assoc, List.append_assoc]

theorem toList_commas (text : α → String) (a : α) (as : List α) :
    (", ".intercalate ((a :: as).map text)).toList =
      (text a).toList ++ as.flatMap fun b => ", ".toList ++ (text b).toList := by
  rw [List.map_cons, toList_intercalate_cons, List.flatMap_map]

theorem Readable.commas {text : α → String} {key : α → β} {ok : α → Prop}
    {follow : List Char → Prop} (member : Readable (fun a => (text a).toList) key ok follow)
    (comma : ∀ r, follow (',' :: r)) :
    Readable (fun as => (", ".intercalate (as.map text)).toList) (List.map key)
      (fun as => as ≠ [] ∧ ∀ a ∈ as, ok a) (fun r => follow r ∧ r.head? ≠ some ',') := by
  have after (r : List Char) (opened : r.head? = some ',') : follow r := by
    obtain ⟨rest, rfl⟩ := List.head?_eq_some_iff.mp opened
    exact comma rest
  have first (a : α) (_ : ok a) (r : List Char) :
      ((", ".toList ++ (text a).toList) ++ r).head? = some ',' := by simp
  have others := (member.after ", ".toList).many first after
  intro as bs has hbs r s hr hs same
  cases as with
  | nil => exact absurd rfl has.1
  | cons a as =>
    cases bs with
    | nil => exact absurd rfl hbs.1
    | cons b bs =>
      simp only [toList_commas, List.append_assoc] at same
      obtain ⟨ha, has⟩ := List.forall_mem_cons.mp has.2
      obtain ⟨hb, hbs⟩ := List.forall_mem_cons.mp hbs.2
      obtain ⟨keys, rests⟩ := member ha hb (follow_flatMap first after has hr.1)
        (follow_flatMap first after hbs hs.1) same
      obtain ⟨otherKeys, ends⟩ := others has hbs hr hs rests
      exact ⟨by rw [List.map_cons, List.map_cons, keys, otherKeys], ends⟩

/-! ## The next word -/

def nextWord : List Char → List Char
  | ' ' :: rest => rest.takeWhile (!isBreak ·)
  | _ => []

theorem nextWord_token {w : String} (hw : IsToken w) {rest : List Char} (stop : Stops rest) :
    nextWord (' ' :: (w.toList ++ rest)) = w.toList :=
  takeWhile_token hw stop

/-- A clause is over where this text follows, which goes on with none of the words. -/
structure Ends (words : List String) (rest : List Char) : Prop where
  apart : ∀ c ∈ rest.head?, c = ' ' ∨ c = ')'
  other : ∀ w ∈ words, nextWord rest ≠ w.toList

variable {words : List String} {rest : List Char}

theorem Ends.stops (h : Ends words rest) : Stops rest := by
  intro c hc
  rcases h.apart c hc with rfl | rfl <;> decide

theorem Ends.head?_ne_comma (h : Ends words rest) : rest.head? ≠ some ',' := by
  intro comma
  rcases h.apart ',' comma with same | same <;> exact absurd same (by decide)

theorem Ends.subset {fewer : List String} (h : Ends words rest) (sub : fewer ⊆ words) :
    Ends fewer rest :=
  ⟨h.apart, fun w hw => h.other w (sub hw)⟩

theorem nextWord_ne_of_nil (filled : "" ∉ words) (none : nextWord rest = []) :
    ∀ w ∈ words, nextWord rest ≠ w.toList := by
  intro w hw same
  obtain rfl : w = "" := String.toList_injective (same.symm.trans none)
  exact filled hw

theorem ends_nil (filled : "" ∉ words) : Ends words [] :=
  ⟨by simp, nextWord_ne_of_nil filled rfl⟩

theorem ends_closed (filled : "" ∉ words) (rest : List Char) : Ends words (')' :: rest) :=
  ⟨by simp, nextWord_ne_of_nil filled rfl⟩

theorem ends_word {w : String} (token : IsToken w) (other : w ∉ words) {rest : List Char}
    (stop : Stops rest) : Ends words (' ' :: (w.toList ++ rest)) := by
  refine ⟨by simp, fun v hv same => other ?_⟩
  rw [nextWord_token token stop] at same
  rwa [String.toList_injective same]

def GoesOn (words : List String) (rest : List Char) : Prop :=
  ∃ w ∈ words, ∃ others, rest = ' ' :: (w.toList ++ ' ' :: others)

theorem GoesOn.ends {others : List String} (h : GoesOn words rest)
    (apart : ∀ w ∈ words, IsToken w ∧ w ∉ others) : Ends others rest := by
  obtain ⟨w, listed, after, rfl⟩ := h
  exact ends_word (apart w listed).1 (apart w listed).2 (stops_blank after)

theorem Ends.not_goesOn (h : Ends words rest) (tokens : ∀ w ∈ words, IsToken w) :
    ¬ GoesOn words rest := by
  rintro ⟨w, listed, after, rfl⟩
  exact h.other w listed (nextWord_token (tokens w listed) (stops_blank after))

theorem Readable.manyWords {text : α → List Char} {key : α → β} {ok : α → Prop}
    {follow : List Char → Prop} (member : Readable text key ok follow) (words others : List String)
    (apart : ∀ w ∈ words, IsToken w ∧ w ∉ others)
    (first : ∀ a, ok a → ∀ r, GoesOn words (text a ++ r))
    (enough : ∀ r, Ends others r → follow r) :
    Readable (List.flatMap text) (List.map key) (fun as => ∀ a ∈ as, ok a)
      (Ends (words ++ others)) := by
  have many := member.many first fun r goes => enough r (goes.ends apart)
  have tokens : ∀ w ∈ words, IsToken w := fun w listed => (apart w listed).1
  have ended (r : List Char) (h : Ends (words ++ others) r) : follow r ∧ ¬ GoesOn words r :=
    ⟨enough r (h.subset (List.subset_append_right _ _)),
      (h.subset (List.subset_append_left _ _)).not_goesOn tokens⟩
  exact fun as bs ha hb r s hr hs same => many ha hb (ended r hr) (ended s hs) same

/-- A list that has a text only if it has members, and then one that begins with a certain word,
ends what stands before it. -/
theorem Ends.behind (text : List α → List Char) (w : String) (token : IsToken w)
    (empty : text [] = []) (begins : ∀ a as r, GoesOn [w] (text (a :: as) ++ r))
    (other : w ∉ words) (as : List α) (h : Ends words rest) : Ends words (text as ++ rest) := by
  cases as with
  | nil => rwa [empty]
  | cons a as => exact (begins a as rest).ends (by simpa using ⟨token, other⟩)

theorem nil_iff_nil (text : List α → List Char) (w : String) (token : IsToken w)
    (empty : text [] = []) (begins : ∀ a as r, GoesOn [w] (text (a :: as) ++ r))
    (listed : w ∈ words) {as bs : List α} {r s : List Char} (hr : Ends words r)
    (hs : Ends words s) (same : text as ++ r = text bs ++ s) : as = [] ↔ bs = [] := by
  have ended {rest : List Char} (h : Ends words rest) : ¬ GoesOn [w] rest :=
    (h.subset (by simpa using listed)).not_goesOn (by simpa using token)
  cases as with
  | nil =>
    cases bs with
    | nil => rfl
    | cons b bs =>
      rw [empty, List.nil_append] at same
      exact absurd (same ▸ begins b bs s) (ended hr)
  | cons a as =>
    cases bs with
    | nil =>
      rw [empty, List.nil_append] at same
      exact absurd (same ▸ begins a as r) (ended hs)
    | cons b bs => simp

/-! ## Texts between blanks -/

def spacedAfter (text : String) : List Char :=
  if text.isEmpty then [] else ' ' :: text.toList

theorem toList_spacedTexts (first : String) (filled : first ≠ "") (rest : List String) :
    (spacedTexts (first :: rest)).toList = first.toList ++ rest.flatMap spacedAfter := by
  rw [spacedTexts, List.filter_cons_of_pos (by simpa using filled), toList_intercalate_cons]
  congr 1
  induction rest with
  | nil => rfl
  | cons next rest ih =>
    rw [List.flatMap_cons, ← ih, spacedAfter]
    by_cases empty : next.isEmpty <;> simp [empty]

/-! ## Keywords and numbers -/

theorem readable_connective :
    Readable (fun k : Connective => (Keyword.word k).toList) id (fun _ => True) Stops :=
  readable_of_injective (by intro k; cases k <;> decide +kernel)
    (by intro k l; cases k <;> cases l <;> simp [Keyword.word])

theorem readable_joinKind :
    Readable (fun k : JoinKind => (Keyword.word k).toList) id (fun _ => True) Stops :=
  readable_of_injective (by intro k; cases k <;> decide +kernel)
    (by intro k l; cases k <;> cases l <;> simp [Keyword.word])

theorem readable_direction :
    Readable (fun k : Direction => (Keyword.word k).toList) id (fun _ => True) Stops :=
  readable_of_injective (by intro k; cases k <;> decide +kernel)
    (by intro k l; cases k <;> cases l <;> simp [Keyword.word])

theorem natural_injective : Function.Injective Text.natural := by
  intro m n same
  have numbers := congrArg (fun digits => Nat.ofDigitChars 10 digits 0) same
  simpa [Text.natural] using numbers

theorem natural_ne_minus (m n : Nat) : Text.natural m ≠ '-' :: Text.natural n := by
  intro same
  have digit : '-'.isDigit = true := by
    apply Text.isDigit_natural (n := m)
    rw [same]
    exact List.mem_cons_self
  exact absurd digit (by decide)

theorem intText_injective : Function.Injective Value.intText := by
  intro m n same
  have written : Text.integer m = Text.integer n := String.ofList_injective same
  unfold Text.integer at written
  split at written <;> split at written
  · have sizes := natural_injective (List.cons.inj written).2
    omega
  · exact absurd written.symm (natural_ne_minus _ _)
  · exact absurd written (natural_ne_minus _ _)
  · have sizes := natural_injective written
    omega

theorem isBreak_of_isDigit {c : Char} (h : c.isDigit = true) : isBreak c = false := by
  have range : 48 ≤ c.toNat ∧ c.toNat ≤ 57 := by
    simp only [Char.isDigit, Bool.and_eq_true, decide_eq_true_eq] at h
    exact h
  rw [Bool.eq_false_iff]
  intro broken
  rcases Bool.or_eq_true_iff.mp broken with blank | sign
  · obtain ⟨bounds, listed, low, high⟩ := (Text.Ranges.holds_iff _ c).mp blank
    simp only [Text.blankRanges, List.mem_cons, List.not_mem_nil, or_false] at listed
    rcases listed with rfl | rfl | rfl | rfl | rfl | rfl | rfl | rfl | rfl | rfl <;>
      simp only at low high <;> omega
  · simp only [List.contains_iff_mem, List.mem_cons, List.not_mem_nil, or_false] at sign
    rcases sign with rfl | rfl | rfl | rfl <;> simp at range

theorem isToken_intText (n : Int) : IsToken (Value.intText n) := by
  intro c hc
  rw [Value.intText, String.toList_ofList] at hc
  rcases Text.mem_integer hc with rfl | digit
  · decide
  · exact isBreak_of_isDigit digit

end FluentSql.Reading
