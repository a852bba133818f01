import FluentSql.Proofs.BindText

/-!
# Reading a prepared statement back

The engine takes a colon before a word as a named bind, unless a colon, a
word or a backslash stands before it, and it drops the backslash of a
backslash and a colon. The engine is supplied from outside and nothing but
these rules is asked of it. When every placeholder stands apart from words,
colons and backslashes, the engine reads the original text back with a bind
for each placeholder, exactly if the original text has no backslash before a
colon and no two placeholders that touch.
-/

set_option autoImplicit false

namespace FluentSql.Connection

inductive Token where
  | plain (c : Char)
  | bind (name : List Char)
  deriving DecidableEq

/-- The engine's rules, for a text that comes after the character `b`. -/
inductive Reads : Option Char → List Char → List Token → Prop
  | done {b : Option Char} : Reads b [] []
  | bind {b : Option Char} {name rest : List Char} {ts : List Token}
      (free : shieldsColon b = false) (some_ : name ≠ [])
      (word : ∀ c ∈ name, Text.isWord c = true) (maximal : startsWord rest = false)
      (later : Reads name.getLast? rest ts) : Reads b (':' :: (name ++ rest)) (.bind name :: ts)
  | unescape {b : Option Char} {rest : List Char} {ts : List Token}
      (later : Reads (some ':') rest ts) : Reads b ('\\' :: ':' :: rest) (.plain ':' :: ts)
  | plain {b : Option Char} {c : Char} {rest : List Char} {ts : List Token}
      (noBind : ¬(c = ':' ∧ shieldsColon b = false ∧ startsWord rest = true))
      (noEscape : ¬(c = '\\' ∧ rest.head? = some ':'))
      (later : Reads (some c) rest ts) : Reads b (c :: rest) (.plain c :: ts)

/-! ## One step of reading -/

theorem takeWhile_word {name rest : List Char} (word : ∀ c ∈ name, Text.isWord c = true)
    (maximal : startsWord rest = false) : (name ++ rest).takeWhile Text.isWord = name := by
  rw [List.takeWhile_append_of_pos word]
  cases rest with
  | nil => simp
  | cons c rest =>
    have hc : Text.isWord c = false := maximal
    simp [hc]

theorem startsWord_append {name : List Char} (some_ : name ≠ [])
    (word : ∀ c ∈ name, Text.isWord c = true) (rest : List Char) :
    startsWord (name ++ rest) = true := by
  cases name with
  | nil => exact absurd rfl some_
  | cons c name => exact word c (by simp)

theorem Reads.after_bind {b : Option Char} {name rest : List Char} {ts : List Token}
    (h : Reads b (':' :: (name ++ rest)) ts) (free : shieldsColon b = false) (some_ : name ≠ [])
    (word : ∀ c ∈ name, Text.isWord c = true) (maximal : startsWord rest = false) :
    ∃ later, ts = .bind name :: later ∧ Reads name.getLast? rest later := by
  generalize text : ':' :: (name ++ rest) = cs at h
  cases h with
  | done => cases text
  | @bind _ other more later _ _ otherWord otherMaximal reading =>
    have same := (List.cons.inj text).2
    have names : name = other := by
      rw [← takeWhile_word word maximal, same, takeWhile_word otherWord otherMaximal]
    subst names
    obtain rfl := List.append_cancel_left same
    exact ⟨later, rfl, reading⟩
  | unescape => exact absurd (List.cons.inj text).1 (by decide)
  | plain noBind _ _ =>
    obtain ⟨rfl, rfl⟩ := List.cons.inj text
    exact absurd ⟨rfl, free, startsWord_append some_ word rest⟩ noBind

theorem Reads.after_escape {b : Option Char} {rest : List Char} {ts : List Token}
    (h : Reads b ('\\' :: ':' :: rest) ts) :
    ∃ later, ts = .plain ':' :: later ∧ Reads (some ':') rest later := by
  generalize text : '\\' :: ':' :: rest = cs at h
  cases h with
  | done => cases text
  | bind => exact absurd (List.cons.inj text).1 (by decide)
  | @unescape _ _ later reading =>
    obtain rfl := (List.cons.inj (List.cons.inj text).2).2
    exact ⟨later, rfl, reading⟩
  | plain _ noEscape _ =>
    obtain ⟨rfl, rfl⟩ := List.cons.inj text
    exact absurd ⟨rfl, rfl⟩ noEscape

theorem Reads.after_plain {b : Option Char} {c : Char} {rest : List Char} {ts : List Token}
    (h : Reads b (c :: rest) ts)
    (noBind : ¬(c = ':' ∧ shieldsColon b = false ∧ startsWord rest = true))
    (noEscape : ¬(c = '\\' ∧ rest.head? = some ':')) :
    ∃ later, ts = .plain c :: later ∧ Reads (some c) rest later := by
  generalize text : c :: rest = cs at h
  cases h with
  | done => cases text
  | @bind _ name more _ free some_ word _ _ =>
    obtain ⟨rfl, rfl⟩ := List.cons.inj text
    exact absurd ⟨rfl, free, startsWord_append some_ word more⟩ noBind
  | unescape =>
    obtain ⟨rfl, rfl⟩ := List.cons.inj text
    exact absurd ⟨rfl, rfl⟩ noEscape
  | @plain _ _ _ later _ _ reading =>
    obtain ⟨rfl, rfl⟩ := List.cons.inj text
    exact ⟨later, rfl, reading⟩

/-! ## Places of the original text -/

def awaitedAt (cs : List Char) (p : Nat) : List Token :=
  if isPlaceholderAt cs p then [.bind (bindName (placeholdersBefore cs p)).toList]
  else cs[p]?.toList.map .plain

/-- The original text, with the bind of its own number in the place of each placeholder. -/
def awaited (cs : List Char) : List Token :=
  (List.range cs.length).flatMap (awaitedAt cs)

/-- On both sides of a placeholder the text ends, or there is no colon, backslash or word. -/
def PlaceholdersApart (cs : List Char) : Prop :=
  ∀ p < cs.length, isPlaceholderAt cs p = true →
    shieldsColon (before cs p) = false ∧ shieldsColon cs[p + 1]? = false

instance (cs : List Char) : Decidable (PlaceholdersApart cs) :=
  inferInstanceAs (Decidable (∀ p < cs.length, isPlaceholderAt cs p = true →
    shieldsColon (before cs p) = false ∧ shieldsColon cs[p + 1]? = false))

def isEscapedColon (cs : List Char) (p : Nat) : Bool :=
  cs[p]? == some '\\' && cs[p + 1]? == some ':'

def isTouching (cs : List Char) (p : Nat) : Bool :=
  isPlaceholderAt cs p && isPlaceholderAt cs (p + 1)

theorem isPlaceholderAt_length (passed rest : List Char) (c : Char) :
    isPlaceholderAt (passed ++ c :: rest) passed.length =
      Scan.isPlaceholder ((Scan.State.top.after passed).mark c) := by
  rw [isPlaceholderAt, marks_getElem?_length, Option.any_some]

theorem isPlaceholderAt_beyond {cs : List Char} {p : Nat} (h : cs.length ≤ p) :
    isPlaceholderAt cs p = false := by
  rw [isPlaceholderAt, List.getElem?_eq_none (by rw [length_marks]; exact h)]
  rfl

theorem char_of_isPlaceholder {s : Scan.State} {c : Char}
    (h : Scan.isPlaceholder (s.mark c) = true) : c = '?' := by
  simp only [Scan.isPlaceholder, Scan.Mark.isPlain, Bool.and_eq_true, decide_eq_true_eq] at h
  exact h.1

def endsInPlaceholder (passed : List Char) : Bool :=
  (Scan.marks passed).getLast?.any Scan.isPlaceholder

theorem endsInPlaceholder_concat (passed : List Char) (c : Char) :
    endsInPlaceholder (passed ++ [c]) =
      Scan.isPlaceholder ((Scan.State.top.after passed).mark c) := by
  rw [endsInPlaceholder, Scan.marks, Scan.State.marks_append]
  simp [Scan.State.marks]

def Clean (cs : List Char) (k : Nat) : Prop :=
  (∀ p, k ≤ p → isEscapedColon cs p = false) ∧ ∀ p, k ≤ p + 1 → isTouching cs p = false

theorem clean_length (passed : List Char) : Clean passed passed.length := by
  constructor
  · intro p hp
    rw [isEscapedColon, List.getElem?_eq_none hp]
    rfl
  · intro p hp
    rw [isTouching, isPlaceholderAt_beyond hp, Bool.and_false]

theorem isTouching_length (passed rest : List Char) :
    (∀ p, p + 1 = passed.length → isTouching (passed ++ rest) p = false) ↔
      (endsInPlaceholder passed && isPlaceholderAt (passed ++ rest) passed.length) = false := by
  rcases List.eq_nil_or_concat passed with rfl | ⟨others, c, rfl⟩
  · simp [endsInPlaceholder, Scan.marks, Scan.State.marks]
  · rw [List.concat_eq_append, endsInPlaceholder_concat]
    have here := isPlaceholderAt_length others rest c
    rw [← List.singleton_append, ← List.append_assoc] at here
    constructor
    · intro h
      have touching := h others.length (by simp)
      rw [isTouching, here] at touching
      simpa using touching
    · intro h p hp
      obtain rfl : p = others.length := by simpa using hp
      rw [isTouching, here]
      simpa using h

theorem clean_step (passed rest : List Char) (c : Char) :
    Clean (passed ++ c :: rest) passed.length ↔
      (isEscapedColon (passed ++ c :: rest) passed.length = false ∧
        (endsInPlaceholder passed && isPlaceholderAt (passed ++ c :: rest) passed.length) = false) ∧
      Clean (passed ++ c :: rest) (passed ++ [c]).length := by
  rw [← isTouching_length, List.length_append, List.length_singleton]
  constructor
  · intro h
    exact ⟨⟨h.1 _ (by omega), fun p hp => h.2 p (by omega)⟩,
      fun p hp => h.1 p (by omega), fun p hp => h.2 p (by omega)⟩
  · rintro ⟨⟨colon, touching⟩, later⟩
    constructor
    · intro p hp
      rcases Nat.eq_or_lt_of_le hp with rfl | hp
      · exact colon
      · exact later.1 p hp
    · intro p hp
      rcases Nat.eq_or_lt_of_le hp with same | hp
      · exact touching p same.symm
      · exact later.2 p hp

/-! ## What a place is written as -/

theorem isWord_of_isDigit {c : Char} (h : c.isDigit = true) : Text.isWord c = true := by
  simp only [Char.isDigit, Bool.and_eq_true, decide_eq_true_eq] at h
  have range : ((0x30, 0x39) : Nat × Nat) ∈ Text.alphanumericRanges := List.mem_cons_self
  rw [Text.isWord, (Text.Ranges.holds_iff _ c).mpr ⟨_, range, h.1, h.2⟩, Bool.or_true]

theorem bindName_toList (i : Nat) : (bindName i).toList = 'b' :: Text.natural i := by
  simp [bindName, Value.intText, Text.integer]

theorem isWord_bindName (i : Nat) : ∀ c ∈ (bindName i).toList, Text.isWord c = true := by
  intro c hc
  rw [bindName_toList] at hc
  rcases List.mem_cons.mp hc with rfl | hc
  · decide +kernel
  · exact isWord_of_isDigit (Text.isDigit_natural c hc)

theorem shieldsColon_bindName (i : Nat) : shieldsColon (bindName i).toList.getLast? = true := by
  cases found : (bindName i).toList.getLast? with
  | none => simp [bindName_toList] at found
  | some c =>
    have word := isWord_bindName i c (List.mem_of_getLast? found)
    simp [shieldsColon, word]

theorem not_isWord {c : Char} (h : shieldsColon (some c) = false) : Text.isWord c = false := by
  simp only [shieldsColon, Bool.or_eq_false_iff] at h
  exact h.2

theorem startsWord_places (passed rest : List Char) :
    startsWord (places placed passed rest) = startsWord rest := by
  have colon : Text.isWord ':' = false := by decide +kernel
  have backslash : Text.isWord '\\' = false := by decide +kernel
  have mark : Text.isWord '?' = false := by decide +kernel
  cases rest with
  | nil => rfl
  | cons c rest =>
    rw [places_cons, placed, isPlaceholderAt_length, isBindColon_length]
    split
    · next h =>
      obtain rfl := char_of_isPlaceholder h
      simp [startsWord, colon, mark]
    · split
      · next h =>
        simp only [Bool.and_eq_true, decide_eq_true_eq] at h
        obtain rfl := h.1.1
        simp [startsWord, colon, backslash]
      · simp [startsWord]

theorem head?_places {passed rest : List Char} (colon : rest.head? ≠ some ':')
    (other : isPlaceholderAt (passed ++ rest) passed.length = false) :
    (places placed passed rest).head? ≠ some ':' := by
  cases rest with
  | nil => simp [places]
  | cons c rest =>
    have hc : c ≠ ':' := fun same => colon (by rw [same]; rfl)
    rw [places_cons, placed, other, isBindColon_length]
    simp [hc]

/-! ## The reading of a place -/

/-- What is already written lets a colon start a bind just if the original text would, except that
no bind starts right after the name of another. -/
def Context (passed : List Char) (b : Option Char) : Prop :=
  shieldsColon b = (endsInPlaceholder passed || shieldsColon passed.getLast?)

def CleanAt (passed rest : List Char) : Prop :=
  isEscapedColon (passed ++ rest) passed.length = false ∧
    (endsInPlaceholder passed && isPlaceholderAt (passed ++ rest) passed.length) = false

def ReadsPlace (passed rest : List Char) (c : Char) (ts : List Token) : Prop :=
  ∃ b later, ts = awaitedAt (passed ++ c :: rest) passed.length ++ later ∧
    Context (passed ++ [c]) b ∧ Reads b (places placed (passed ++ [c]) rest) later

variable {passed rest : List Char} {c : Char} {b : Option Char} {ts : List Token}

theorem getElem?_after (passed rest : List Char) (c : Char) :
    (passed ++ c :: rest)[passed.length + 1]? = rest[0]? := by
  rw [List.getElem?_append_right (by omega)]
  simp

theorem isEscapedColon_length (passed rest : List Char) (c : Char) :
    isEscapedColon (passed ++ c :: rest) passed.length =
      (decide (c = '\\') && rest.head? == some ':') := by
  rw [isEscapedColon, getElem?_after, List.head?_eq_getElem?]
  simp
  rfl

def ReadsIfClean (passed rest : List Char) (c : Char) (ts : List Token) : Prop :=
  CleanAt passed (c :: rest) ∧ ReadsPlace passed rest c ts ∨
    ¬CleanAt passed (c :: rest) ∧
      ∀ later, ts ≠ awaitedAt (passed ++ c :: rest) passed.length ++ later

theorem context_character (hole : isPlaceholderAt (passed ++ c :: rest) passed.length = false) :
    Context (passed ++ [c]) (some c) := by
  rw [Context, endsInPlaceholder_concat, ← isPlaceholderAt_length, hole, List.getLast?_concat,
    Bool.false_or]

theorem awaitedAt_character
    (hole : isPlaceholderAt (passed ++ c :: rest) passed.length = false) :
    awaitedAt (passed ++ c :: rest) passed.length = [.plain c] := by
  rw [awaitedAt, hole]
  simp

/-! ### Placeholders -/

theorem startsWord_after_placeholder (apart : PlaceholdersApart (passed ++ c :: rest))
    (hole : isPlaceholderAt (passed ++ c :: rest) passed.length = true) :
    startsWord (places placed (passed ++ [c]) rest) = false := by
  have right := (apart passed.length (by simp) hole).2
  rw [getElem?_after] at right
  rw [startsWord_places, startsWord_eq]
  cases found : rest[0]? with
  | none => rfl
  | some d => exact not_isWord (found ▸ right)

theorem reads_placeholder (apart : PlaceholdersApart (passed ++ c :: rest))
    (context : Context passed b) (h : Reads b (places placed passed (c :: rest)) ts)
    (hole : isPlaceholderAt (passed ++ c :: rest) passed.length = true) :
    ReadsIfClean passed rest c ts := by
  have left := (apart passed.length (by simp) hole).1
  have name := isWord_bindName (placeholdersBefore (passed ++ c :: rest) passed.length)
  have some_ : (bindName (placeholdersBefore (passed ++ c :: rest) passed.length)).toList ≠ [] := by
    rw [bindName_toList]
    exact List.cons_ne_nil _ _
  have question : c = '?' := by
    rw [isPlaceholderAt_length] at hole
    exact char_of_isPlaceholder hole
  rw [before_length] at left
  rw [Context, left, Bool.or_false] at context
  rw [places_cons, placed, if_pos hole] at h
  cases touching : endsInPlaceholder passed with
  | false =>
    left
    rw [touching] at context
    obtain ⟨later, rfl, reading⟩ :=
      h.after_bind context some_ name (startsWord_after_placeholder apart hole)
    constructor
    · constructor
      · rw [isEscapedColon_length, question]
        rfl
      · rw [touching, Bool.false_and]
    · refine ⟨_, later, ?_, ?_, reading⟩
      · rw [awaitedAt, if_pos hole]
        rfl
      · rw [Context, shieldsColon_bindName, endsInPlaceholder_concat, ← isPlaceholderAt_length,
          hole, Bool.true_or]
  | true =>
    right
    constructor
    · intro clean
      have apart := clean.2
      rw [touching, hole] at apart
      exact absurd apart (by decide)
    · intro later same
      rw [touching] at context
      obtain ⟨others, rfl, -⟩ := h.after_plain (by simp [context]) (by simp)
      rw [awaitedAt, if_pos hole] at same
      cases same

/-! ### Colons and other characters -/

theorem reads_bindColon (h : Reads b (places placed passed (c :: rest)) ts)
    (hole : isPlaceholderAt (passed ++ c :: rest) passed.length = false)
    (colon : isBindColon (passed ++ c :: rest) passed.length = true) :
    CleanAt passed (c :: rest) ∧ ReadsPlace passed rest c ts := by
  rw [places_cons, placed, hole, if_pos colon] at h
  obtain ⟨later, rfl, reading⟩ := h.after_escape
  rw [isBindColon_length] at colon
  simp only [Bool.and_eq_true, decide_eq_true_eq] at colon
  obtain rfl := colon.1.1
  constructor
  · constructor
    · rw [isEscapedColon_length]
      rfl
    · rw [hole, Bool.and_false]
  · refine ⟨some ':', later, ?_, context_character hole, reading⟩
    rw [awaitedAt_character hole]
    rfl

theorem places_character (hole : isPlaceholderAt (passed ++ c :: rest) passed.length = false)
    (colon : isBindColon (passed ++ c :: rest) passed.length = false) :
    places placed passed (c :: rest) = c :: places placed (passed ++ [c]) rest := by
  rw [places_cons, placed, hole, colon]
  simp

theorem reads_escapedColon (h : Reads b (places placed passed (c :: rest)) ts)
    (hole : isPlaceholderAt (passed ++ c :: rest) passed.length = false)
    (colon : isBindColon (passed ++ c :: rest) passed.length = false)
    (escaped : isEscapedColon (passed ++ c :: rest) passed.length = true) (later : List Token) :
    ts ≠ awaitedAt (passed ++ c :: rest) passed.length ++ later := by
  intro same
  rw [awaitedAt_character hole] at same
  rw [places_character hole colon] at h
  rw [isEscapedColon_length] at escaped
  simp only [Bool.and_eq_true, decide_eq_true_eq, beq_iff_eq] at escaped
  obtain ⟨rfl, head⟩ := escaped
  obtain ⟨more, rfl⟩ := List.head?_eq_some_iff.mp head
  -- The colon after the backslash is written as it is, since the backslash shields it.
  have plain : places placed (passed ++ ['\\']) (':' :: more) =
      ':' :: places placed (passed ++ ['\\'] ++ [':']) more := by
    apply places_character
    · rw [isPlaceholderAt_length]
      simp [Scan.isPlaceholder, Scan.Mark.isPlain, Scan.State.mark]
    · rw [isBindColon_length, List.getLast?_concat]
      simp [shieldsColon]
  rw [plain] at h
  obtain ⟨others, rfl, -⟩ := h.after_escape
  exact absurd (List.cons.inj same).1 (by decide)

theorem not_isPlaceholderAt_after (apart : PlaceholdersApart (passed ++ '\\' :: rest)) :
    isPlaceholderAt (passed ++ ['\\'] ++ rest) (passed ++ ['\\']).length = false := by
  have whole : passed ++ ['\\'] ++ rest = passed ++ '\\' :: rest := by simp
  rw [Bool.eq_false_iff]
  intro next
  have inside : (passed ++ ['\\']).length < (passed ++ ['\\'] ++ rest).length := by
    by_cases short : (passed ++ ['\\']).length < (passed ++ ['\\'] ++ rest).length
    · exact short
    · have none := isPlaceholderAt_beyond (Nat.le_of_not_lt short)
      rw [next] at none
      exact absurd none (by decide)
  have left := (apart _ (whole ▸ inside) (whole ▸ next)).1
  rw [← whole, before_length, List.getLast?_concat] at left
  exact absurd left (by decide)

theorem noEscape_places (apart : PlaceholdersApart (passed ++ c :: rest))
    (escaped : isEscapedColon (passed ++ c :: rest) passed.length = false) :
    ¬(c = '\\' ∧ (places placed (passed ++ [c]) rest).head? = some ':') := by
  rintro ⟨rfl, head⟩
  have later : rest.head? ≠ some ':' := by
    intro found
    rw [isEscapedColon_length, found] at escaped
    exact absurd escaped (by decide)
  exact head?_places later (not_isPlaceholderAt_after apart) head

theorem reads_character (apart : PlaceholdersApart (passed ++ c :: rest))
    (context : Context passed b) (h : Reads b (places placed passed (c :: rest)) ts)
    (hole : isPlaceholderAt (passed ++ c :: rest) passed.length = false)
    (colon : isBindColon (passed ++ c :: rest) passed.length = false) :
    ReadsIfClean passed rest c ts := by
  cases escaped : isEscapedColon (passed ++ c :: rest) passed.length with
  | true =>
    right
    constructor
    · intro clean
      rw [clean.1] at escaped
      cases escaped
    · exact reads_escapedColon h hole colon escaped
  | false =>
    left
    have noBind : ¬(c = ':' ∧ shieldsColon b = false ∧
        startsWord (places placed (passed ++ [c]) rest) = true) := by
      rintro ⟨rfl, free, word⟩
      rw [context, Bool.or_eq_false_iff] at free
      rw [startsWord_places] at word
      rw [isBindColon_length, free.2, word] at colon
      exact absurd colon (by decide)
    rw [places_character hole colon] at h
    obtain ⟨later, rfl, reading⟩ := h.after_plain noBind (noEscape_places apart escaped)
    constructor
    · exact ⟨escaped, by rw [hole, Bool.and_false]⟩
    · refine ⟨some c, later, ?_, context_character hole, reading⟩
      rw [awaitedAt_character hole]
      rfl

/-! ## The whole reading -/

theorem reads_place (apart : PlaceholdersApart (passed ++ c :: rest)) (context : Context passed b)
    (h : Reads b (places placed passed (c :: rest)) ts) : ReadsIfClean passed rest c ts := by
  cases hole : isPlaceholderAt (passed ++ c :: rest) passed.length with
  | true => exact reads_placeholder apart context h hole
  | false =>
    cases colon : isBindColon (passed ++ c :: rest) passed.length with
    | true => exact Or.inl (reads_bindColon h hole colon)
    | false => exact reads_character apart context h hole colon

/-- The reading is the awaited one exactly if no place spoils it. -/
theorem reads_places_iff (apart : PlaceholdersApart (passed ++ rest)) (context : Context passed b)
    (h : Reads b (places placed passed rest) ts) :
    ts = places awaitedAt passed rest ↔ Clean (passed ++ rest) passed.length := by
  induction rest generalizing passed b ts with
  | nil =>
    rw [places, List.length_nil, List.range'_zero] at h ⊢
    cases h
    simpa using clean_length passed
  | cons c rest ih =>
    have whole : passed ++ [c] ++ rest = passed ++ c :: rest := by simp
    rw [clean_step, places_cons]
    rcases reads_place apart context h with ⟨clean, b', later, rfl, next, reading⟩ | ⟨spoilt, other⟩
    · have rest_iff := ih (whole ▸ apart) next reading
      rw [whole] at rest_iff
      rw [List.append_cancel_left_eq, rest_iff]
      exact ⟨fun h => ⟨clean, h⟩, fun h => h.2⟩
    · exact ⟨fun same => absurd same (other _), fun clean => absurd clean.1 spoilt⟩

/-! ## The binds of the awaited reading -/

def Token.name? : Token → Option (List Char)
  | .plain _ => none
  | .bind name => some name

theorem names_awaitedAt (passed rest : List Char) (c : Char) :
    (awaitedAt (passed ++ c :: rest) passed.length).filterMap Token.name? =
      if Scan.isPlaceholder ((Scan.State.top.after passed).mark c) then
        [(bindName (Scan.countMarks (Scan.marks passed))).toList]
      else [] := by
  rw [awaitedAt, isPlaceholderAt_length, placeholdersBefore_length]
  split
  · rfl
  · simp [Token.name?]

theorem names_places (passed rest : List Char) :
    (places awaitedAt passed rest).filterMap Token.name? =
      (List.range' (Scan.countMarks (Scan.marks passed))
        (Scan.countMarks ((Scan.State.top.after passed).marks rest))).map
          fun i => (bindName i).toList := by
  induction rest generalizing passed with
  | nil => simp [places, Scan.State.marks, Scan.countMarks]
  | cons c rest ih =>
    have marked : Scan.marks (passed ++ [c]) =
        Scan.marks passed ++ [(Scan.State.top.after passed).mark c] := by
      rw [Scan.marks, Scan.State.marks_append]
      rfl
    have after : Scan.State.top.after (passed ++ [c]) = (Scan.State.top.after passed).next c := by
      rw [Scan.State.after_append]
      rfl
    rw [places_cons, List.filterMap_append, names_awaitedAt, ih, marked, after,
      Scan.countMarks_append, Scan.State.marks]
    split
    · next hole =>
      simp [Scan.countMarks, hole, List.range'_succ]
    · next hole =>
      simp [Scan.countMarks, hole]

theorem names_awaited (sql : String) :
    (awaited sql.toList).filterMap Token.name? =
      (List.range (Scan.placeholderCount sql)).map fun i => (bindName i).toList := by
  have names := names_places [] sql.toList
  rw [places_nil] at names
  rw [awaited, names, List.range_eq_range']
  rfl

def Undisturbed (cs : List Char) : Prop :=
  ∀ p < cs.length, isEscapedColon cs p = false ∧ isTouching cs p = false

instance (cs : List Char) : Decidable (Undisturbed cs) :=
  inferInstanceAs (Decidable (∀ p < cs.length,
    isEscapedColon cs p = false ∧ isTouching cs p = false))

theorem clean_zero (cs : List Char) : Clean cs 0 ↔ Undisturbed cs := by
  constructor
  · intro h p _
    exact ⟨h.1 p (Nat.zero_le p), h.2 p (Nat.zero_le _)⟩
  · intro h
    constructor
    · intro p _
      by_cases hp : p < cs.length
      · exact (h p hp).1
      · exact (clean_length cs).1 p (by omega)
    · intro p _
      by_cases hp : p < cs.length
      · exact (h p hp).2
      · exact (clean_length cs).2 p (by omega)

/-- An engine reads back what was written, with the binds of the values in order, exactly if the
original text is undisturbed. -/
theorem reads_back_iff (read : String → List Token) (rules : ∀ s, Reads none s.toList (read s))
    (sql : String) (values : List Value) (count : Scan.placeholderCount sql = values.length)
    (apart : PlaceholdersApart sql.toList) :
    ∃ p, prepare sql values = .ok p ∧
      (awaited sql.toList).filterMap Token.name? =
        (List.range values.length).map (fun i => (bindName i).toList) ∧
      (read p.statement = awaited sql.toList ↔ Undisturbed sql.toList) := by
  refine ⟨_, prepare_of_count count, ?_, ?_⟩
  · rw [names_awaited, count]
  · have start : Context [] none := rfl
    have statement : (String.ofList (rewritten sql.toList)).toList =
        places placed [] sql.toList := by
      rw [String.toList_ofList, rewritten, places_nil]
    have reading := rules (String.ofList (rewritten sql.toList))
    rw [statement] at reading
    rw [awaited, ← places_nil, ← clean_zero]
    exact reads_places_iff apart start reading

/-! ## An engine that keeps the rules -/

def readTokens (b : Option Char) : List Char → List Token
  | [] => []
  | c :: rest =>
    if decide (c = ':') && !shieldsColon b && startsWord rest then
      .bind (rest.takeWhile Text.isWord) ::
        readTokens (rest.takeWhile Text.isWord).getLast? (rest.dropWhile Text.isWord)
    else if decide (c = '\\') && rest.head? == some ':' then
      .plain ':' :: readTokens (some ':') rest.tail
    else .plain c :: readTokens (some c) rest
  termination_by cs => cs.length
  decreasing_by
    · have shorter := (List.dropWhile_sublist Text.isWord (l := rest)).length_le
      simp only [List.length_cons]
      omega
    · simp only [List.length_tail, List.length_cons]
      omega
    · simp

theorem startsWord_dropWhile (cs : List Char) :
    startsWord (cs.dropWhile Text.isWord) = false := by
  induction cs with
  | nil => rfl
  | cons c cs ih =>
    rw [List.dropWhile_cons]
    split
    · exact ih
    · next h => simpa [startsWord] using h

theorem reads_readTokens (b : Option Char) (cs : List Char) : Reads b cs (readTokens b cs) := by
  fun_induction readTokens b cs with
  | case1 => exact .done
  | case2 b c rest h ih =>
    simp only [Bool.and_eq_true, decide_eq_true_eq, Bool.not_eq_true'] at h
    obtain ⟨⟨rfl, free⟩, word⟩ := h
    have some_ : rest.takeWhile Text.isWord ≠ [] := by
      cases rest with
      | nil => cases word
      | cons d rest =>
        have hd : Text.isWord d = true := word
        simp [hd]
    have reading := Reads.bind free some_ (List.all_eq_true.mp List.all_takeWhile)
      (startsWord_dropWhile rest) ih
    rwa [List.takeWhile_append_dropWhile] at reading
  | case3 b c rest _ h ih =>
    simp only [Bool.and_eq_true, decide_eq_true_eq, beq_iff_eq] at h
    obtain ⟨rfl, head⟩ := h
    obtain ⟨more, rfl⟩ := List.head?_eq_some_iff.mp head
    exact .unescape ih
  | case4 b c rest noBind noEscape ih =>
    exact .plain (by simpa [and_assoc] using noBind) (by simpa using noEscape) ih

def seeRef : String :=
  "SELECT 'see :ref', x::text FROM t WHERE a = ? AND b = ?"

theorem seeRef_reads_back :
    ∃ p, prepare seeRef [.int 1, .text ":c"] = .ok p ∧
      (awaited seeRef.toList).filterMap Token.name? = [['b', '0'], ['b', '1']] ∧
      readTokens none p.statement.toList = awaited seeRef.toList := by
  obtain ⟨p, prepared, names, reading⟩ := reads_back_iff (fun s => readTokens none s.toList)
    (fun s => reads_readTokens none s.toList) seeRef [.int 1, .text ":c"] (by decide +kernel)
    (by decide +kernel)
  exact ⟨p, prepared, names.trans (by decide +kernel), reading.mpr (by decide +kernel)⟩

end FluentSql.Connection
