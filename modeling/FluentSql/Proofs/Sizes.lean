import FluentSql.Proofs.ScriptParts
import FluentSql.Schema.Reflection

/-!
# Sizes of types

What stands between the parentheses of a type counts as a size if it consists
of digits, blanks around them aside. It can be read as one if the digits are
decimal, the blanks are spacing, and there are not too many digits. The
superscript digits, and the separators of files and records, count on the one
side only.
-/

set_option autoImplicit false

namespace FluentSql

namespace Text

/-! ## Classes that share no character -/

namespace Ranges

def apart (xs ys : Ranges) : Bool :=
  xs.all fun x => ys.all fun y => decide (x.2 < y.1) || decide (y.2 < x.1)

theorem not_holds_of_apart {xs ys : Ranges} (h : xs.apart ys = true) {c : Char}
    (held : xs.holds c = true) : ys.holds c = false := by
  obtain ⟨x, inX, lowX, highX⟩ := (holds_iff xs c).mp held
  rw [← Bool.not_eq_true, holds_iff]
  rintro ⟨y, inY, lowY, highY⟩
  have parted := List.all_eq_true.mp (List.all_eq_true.mp h x inX) y inY
  simp only [Bool.or_eq_true, decide_eq_true_eq] at parted
  omega

end Ranges

def decimalRanges : Ranges :=
  zeros.map fun start => (start, start + 9)

theorem isDecimalDigit_eq (c : Char) : isDecimalDigit c = decimalRanges.holds c := by
  rw [isDecimalDigit, decimalDigit?, Option.isSome_map, Bool.eq_iff_iff, List.find?_isSome,
    Ranges.holds, decimalRanges, List.any_map, List.any_eq_true]
  simp [Nat.lt_succ_iff]

theorem isDigit_of_isDecimalDigit {c : Char} (h : isDecimalDigit c = true) : isDigit c = true := by
  rw [isDigit, h, Bool.true_or]

theorem not_isBlank_of_isDigit {c : Char} (h : isDigit c = true) : isBlank c = false := by
  rw [isDigit, isDecimalDigit_eq, ← Ranges.holds_append] at h
  exact Ranges.not_holds_of_apart (by decide +kernel) h

theorem not_isBlank_of_isWord {c : Char} (h : isWord c = true) : isBlank c = false := by
  rw [isWord, Bool.or_eq_true, decide_eq_true_eq] at h
  rcases h with rfl | h
  · decide
  · exact Ranges.not_holds_of_apart (by decide +kernel) h

theorem not_isSpacing_of_isDigit {c : Char} (h : isDigit c = true) : isSpacing c = false := by
  rw [isSpacing, not_isBlank_of_isDigit h, Bool.false_and]

theorem decimalDigit?_of_isDigit {c : Char} (h : c.isDigit = true) :
    decimalDigit? c = some (c.toNat - '0'.toNat) := by
  simp only [Char.isDigit, Bool.and_eq_true, decide_eq_true_eq] at h
  have low : 0x30 ≤ c.toNat := h.1
  have high : c.toNat < 0x30 + 10 := by
    have : c.toNat ≤ 0x39 := h.2
    omega
  rw [decimalDigit?, zeros, List.find?_cons_of_pos (by simp [low, high])]
  rfl

/-! ## Trimming -/

theorem trimEnd_visible {cs : List Char} (visible : ∀ c ∈ cs, isBlank c = false) :
    trimEnd cs = cs := by
  induction cs with
  | nil => rfl
  | cons c cs ih =>
    have here := visible c (by simp)
    have later := ih fun d member => visible d (List.mem_cons_of_mem _ member)
    rw [trimEnd, later]
    cases cs with
    | nil => simp [here]
    | cons d ds => rfl

theorem trimChars_visible {cs : List Char} (visible : ∀ c ∈ cs, isBlank c = false) :
    trimChars cs = cs := by
  cases cs with
  | nil => rfl
  | cons c cs =>
    rw [Scan.trimChars_of_start (visible c (by simp)), trimEnd_visible visible]

end Text

/-! ## Digits read -/

open Text

theorem moreDigits?_digit {c : Char} {d : Nat} (found : decimalDigit? c = some d)
    (rest : List Char) :
    moreDigits? (c :: rest) = (moreDigits? rest).map fun r => (d :: r.1, r.2) := by
  have other : c ≠ '_' := by
    rintro rfl
    have none : decimalDigit? '_' = none := by decide
    rw [none] at found
    cases found
  simp [moreDigits?, other, found]

theorem moreDigits?_other {c : Char} (other : c ≠ '_') (none : decimalDigit? c = none)
    (rest : List Char) : moreDigits? (c :: rest) = some ([], c :: rest) := by
  simp [moreDigits?, other, none]

def EndsDigits (rest : List Char) : Prop :=
  ∀ c ∈ rest.head?, c ≠ '_' ∧ isDecimalDigit c = false

theorem moreDigits?_run {ds rest : List Char} (decimal : ∀ c ∈ ds, isDecimalDigit c = true)
    (ends : EndsDigits rest) :
    moreDigits? (ds ++ rest) = some (ds.filterMap decimalDigit?, rest) := by
  induction ds with
  | nil =>
    cases rest with
    | nil => rfl
    | cons c rest =>
      obtain ⟨other, stops⟩ := ends c rfl
      rw [isDecimalDigit, Option.isSome_eq_false_iff, Option.isNone_iff_eq_none] at stops
      exact moreDigits?_other other stops rest
  | cons c ds ih =>
    have here := decimal c (by simp)
    have later := ih fun d member => decimal d (List.mem_cons_of_mem _ member)
    obtain ⟨d, found⟩ := Option.isSome_iff_exists.mp here
    rw [List.cons_append, moreDigits?_digit found, later, List.filterMap_cons_some found]
    rfl

theorem limitedDigits_run {ds rest : List Char} (filled : ds ≠ [])
    (decimal : ∀ c ∈ ds, isDecimalDigit c = true) (ends : EndsDigits rest) :
    limitedDigits (ds ++ rest) =
      if digitLimit < ds.length then .error (.tooLong ds.length)
      else if rest.all isSpacing then .ok (decimalValue (ds.filterMap decimalDigit?))
      else .error .malformed := by
  cases ds with
  | nil => exact absurd rfl filled
  | cons c ds =>
    have later : ∀ d ∈ ds, isDecimalDigit d = true := fun d member =>
      decimal d (List.mem_cons_of_mem _ member)
    obtain ⟨d, found⟩ := Option.isSome_iff_exists.mp (decimal c (by simp))
    have length : (ds.filterMap decimalDigit?).length = ds.length := by
      rw [List.length_filterMap_eq_countP, List.countP_eq_length]
      exact later
    have read : digits? (c :: (ds ++ rest)) = some (d :: ds.filterMap decimalDigit?, rest) := by
      rw [digits?, found, moreDigits?_run later ends]
      rfl
    rw [List.cons_append, limitedDigits, read, List.filterMap_cons_some found]
    simp only [List.length_cons, length]

theorem limitedDigits_other {cs : List Char} (other : ∀ c ∈ cs.head?, isDecimalDigit c = false) :
    limitedDigits cs = .error .malformed := by
  cases cs with
  | nil => rfl
  | cons c cs =>
    have none := other c rfl
    rw [isDecimalDigit, Option.isSome_eq_false_iff, Option.isNone_iff_eq_none] at none
    rw [limitedDigits, digits?, none]
    rfl

theorem readInteger_unsigned {text : String} {cs : List Char}
    (begins : text.toList.dropWhile isSpacing = cs) (minus : cs.head? ≠ some '-')
    (plus : cs.head? ≠ some '+') :
    readInteger text = (limitedDigits cs).map fun n => (n : Int) := by
  rw [readInteger, begins]
  split
  · simp at minus
  · simp at plus
  · rfl

theorem readInteger_run {lead ds trail : List Char} (spacing : ∀ c ∈ lead, isSpacing c = true)
    (filled : ds ≠ []) (decimal : ∀ c ∈ ds, isDecimalDigit c = true)
    (spacing' : ∀ c ∈ trail, isSpacing c = true) :
    readInteger (String.ofList (lead ++ ds ++ trail)) =
      if digitLimit < ds.length then .error (.tooLong ds.length)
      else .ok (decimalValue (ds.filterMap decimalDigit?) : Int) := by
  obtain ⟨first, more, rfl⟩ := List.exists_cons_of_ne_nil filled
  have digit := decimal first (by simp)
  have visible := not_isSpacing_of_isDigit (isDigit_of_isDecimalDigit digit)
  have unsigned : first ≠ '-' ∧ first ≠ '+' := by
    constructor <;> rintro rfl <;> exact absurd digit (by decide)
  have begins : (String.ofList (lead ++ first :: more ++ trail)).toList.dropWhile isSpacing =
      first :: more ++ trail := by
    rw [String.toList_ofList, List.append_assoc, List.dropWhile_append_of_pos spacing]
    exact List.dropWhile_cons_of_neg (by simp [visible])
  have ends : EndsDigits trail := by
    intro c head
    have spaced := spacing' c (List.mem_of_mem_head? head)
    constructor
    · rintro rfl
      exact absurd spaced (by decide)
    · rw [← Bool.not_eq_true]
      intro also
      rw [not_isSpacing_of_isDigit (isDigit_of_isDecimalDigit also)] at spaced
      cases spaced
  rw [readInteger_unsigned begins (by simpa using unsigned.1) (by simpa using unsigned.2),
    limitedDigits_run (List.cons_ne_nil _ _) decimal ends, List.all_eq_true.mpr spacing']
  split <;> rfl

theorem limitedDigits_ok {cs : List Char} {n : Nat} (bare : '_' ∉ cs)
    (h : limitedDigits cs = .ok n) :
    ∃ ds rest, cs = ds ++ rest ∧ ds.length ≤ digitLimit ∧
      (∀ c ∈ ds, isDecimalDigit c = true) ∧ ∀ c ∈ rest, isSpacing c = true := by
  have whole : cs = cs.takeWhile isDecimalDigit ++ cs.dropWhile isDecimalDigit :=
    List.takeWhile_append_dropWhile.symm
  have decimal : ∀ c ∈ cs.takeWhile isDecimalDigit, isDecimalDigit c = true :=
    List.all_eq_true.mp List.all_takeWhile
  have ends : EndsDigits (cs.dropWhile isDecimalDigit) := by
    intro c head
    constructor
    · rintro rfl
      exact bare ((List.dropWhile_sublist _).subset (List.mem_of_mem_head? head))
    · have stops := List.head?_dropWhile_not isDecimalDigit cs
      rwa [Option.mem_def.mp head] at stops
  by_cases filled : cs.takeWhile isDecimalDigit = []
  · rw [limitedDigits_other] at h
    · cases h
    · intro c head
      rw [whole, filled] at head
      exact (ends c head).2
  · rw [whole, limitedDigits_run filled decimal ends] at h
    split at h
    · cases h
    · next fits =>
      split at h
      · next spacing =>
        exact ⟨_, _, whole, by omega, decimal, List.all_eq_true.mp spacing⟩
      · cases h

/-! ## Sizes -/

namespace Description

def IsSize (cs : List Char) : Prop :=
  trimChars cs ≠ [] ∧ ∀ c ∈ trimChars cs, isDigit c = true

/-- Decimal digits and spacing, and no more digits than can be read. -/
def IsLegible (cs : List Char) : Prop :=
  (∀ c ∈ cs, isSpacing c = true ∨ isDecimalDigit c = true) ∧
    cs.countP isDecimalDigit ≤ digitLimit

theorem countP_digits {lead ds trail : List Char} (spacing : ∀ c ∈ lead, isSpacing c = true)
    (decimal : ∀ c ∈ ds, isDecimalDigit c = true) (spacing' : ∀ c ∈ trail, isSpacing c = true) :
    (lead ++ ds ++ trail).countP isDecimalDigit = ds.length := by
  have none {cs : List Char} (all : ∀ c ∈ cs, isSpacing c = true) :
      cs.countP isDecimalDigit = 0 := by
    rw [List.countP_eq_zero]
    intro c member digit
    have := not_isSpacing_of_isDigit (isDigit_of_isDecimalDigit digit)
    rw [all c member] at this
    cases this
  rw [List.countP_append, List.countP_append, none spacing, none spacing',
    List.countP_eq_length.mpr decimal, Nat.zero_add, Nat.add_zero]

theorem IsSize.char {cs : List Char} (size : IsSize cs) :
    ∀ c ∈ cs, isBlank c = true ∨ isDigit c = true := by
  obtain ⟨lead, trail, whole, blank, blank'⟩ := trimChars_between cs
  intro c member
  rw [whole, List.mem_append, List.mem_append] at member
  rcases member with (member | member) | member
  · exact .inl (blank c member)
  · exact .inr (size.2 c member)
  · exact .inl (blank' c member)

theorem IsSize.unmarked {cs : List Char} (size : IsSize cs) :
    '-' ∉ cs ∧ '+' ∉ cs ∧ '_' ∉ cs := by
  have apart {d : Char} (neither : (isBlank d || isDigit d) = false) : d ∉ cs := by
    intro member
    rw [Bool.or_eq_false_iff] at neither
    rcases size.char d member with blank | digit
    · rw [neither.1] at blank
      cases blank
    · rw [neither.2] at digit
      cases digit
  exact ⟨apart (by decide +kernel), apart (by decide +kernel), apart (by decide +kernel)⟩

theorem readInteger_ok_iff {cs : List Char} (size : IsSize cs) :
    (∃ n, readInteger (String.ofList cs) = .ok n) ↔ IsLegible cs := by
  constructor
  · rintro ⟨n, read⟩
    obtain ⟨minus, plus, underscore⟩ := size.unmarked
    have sub : ∀ c ∈ cs.dropWhile isSpacing, c ∈ cs :=
      fun c => ((List.dropWhile_sublist _).subset ·)
    have begins : (String.ofList cs).toList.dropWhile isSpacing = cs.dropWhile isSpacing := by
      rw [String.toList_ofList]
    rw [readInteger_unsigned begins (fun head => minus (sub _ (List.mem_of_mem_head? head)))
      (fun head => plus (sub _ (List.mem_of_mem_head? head)))] at read
    cases limited : limitedDigits (cs.dropWhile isSpacing) with
    | error refusal =>
      rw [limited] at read
      cases read
    | ok m =>
      obtain ⟨ds, rest, split, few, decimal, spacing'⟩ :=
        limitedDigits_ok (fun member => underscore (sub _ member)) limited
      have spacing : ∀ c ∈ cs.takeWhile isSpacing, isSpacing c = true :=
        List.all_eq_true.mp List.all_takeWhile
      have whole : cs = cs.takeWhile isSpacing ++ ds ++ rest := by
        rw [List.append_assoc, ← split, List.takeWhile_append_dropWhile]
      rw [whole]
      refine ⟨fun c member => ?_, by rwa [countP_digits spacing decimal spacing']⟩
      rw [List.mem_append, List.mem_append] at member
      rcases member with (member | member) | member
      · exact .inl (spacing c member)
      · exact .inr (decimal c member)
      · exact .inl (spacing' c member)
  · rintro ⟨chars, few⟩
    obtain ⟨lead, trail, whole, blank, blank'⟩ := trimChars_between cs
    obtain ⟨filled, digits⟩ := size
    generalize trimChars cs = ds at whole filled digits
    subst whole
    have spaced {c : Char} (member : c ∈ lead ++ ds ++ trail) (blank : isBlank c = true) :
        isSpacing c = true := by
      rcases chars c member with spacing | decimal
      · exact spacing
      · rw [not_isBlank_of_isDigit (isDigit_of_isDecimalDigit decimal)] at blank
        cases blank
    have spacing : ∀ c ∈ lead, isSpacing c = true := fun c member =>
      spaced (by simp [member]) (blank c member)
    have spacing' : ∀ c ∈ trail, isSpacing c = true := fun c member =>
      spaced (by simp [member]) (blank' c member)
    have decimal : ∀ c ∈ ds, isDecimalDigit c = true := by
      intro c member
      rcases chars c (by simp [member]) with spacing | decimal
      · rw [not_isSpacing_of_isDigit (digits c member)] at spacing
        cases spacing
      · exact decimal
    rw [countP_digits spacing decimal spacing'] at few
    exact ⟨_, (readInteger_run spacing filled decimal spacing').trans (if_neg (by omega))⟩

theorem isSize_iff (cs : List Char) :
    (!(trimChars cs).isEmpty && (trimChars cs).all isDigit) = true ↔ IsSize cs := by
  simp [IsSize]

theorem size_some (cs : List Char) (usual : Int) :
    (IsSize cs → size (some cs) usual =
      (Value.integerOf (.text (String.ofList cs)) (String.ofList cs)).map .int) ∧
    (¬ IsSize cs → size (some cs) usual = .ok (.int usual)) := by
  rw [← isSize_iff, size]
  exact ⟨fun counts => if_pos counts, fun other => if_neg other⟩

theorem integerOf_eq (v : Value) (written : String) :
    (∀ n, readInteger written = .ok n → v.integerOf written = .ok n) ∧
    ∀ refusal, readInteger written = .error refusal →
      ∃ fault, v.integerOf written = .error (.reading fault) := by
  constructor
  · intro n read
    rw [Value.integerOf, read]
  · intro refusal read
    rw [Value.integerOf, read]
    cases refusal <;> exact ⟨_, rfl⟩

theorem size_ok {arguments : Option (List Char)} (usual : Int)
    (legible : ∀ cs ∈ arguments, IsSize cs → IsLegible cs) :
    ∃ v, size arguments usual = .ok v := by
  cases arguments with
  | none => exact ⟨_, rfl⟩
  | some cs =>
    by_cases counts : IsSize cs
    · obtain ⟨n, read⟩ := (readInteger_ok_iff counts).mpr (legible cs rfl counts)
      rw [(size_some cs usual).1 counts, (integerOf_eq _ _).1 n read]
      exact ⟨_, rfl⟩
    · exact ⟨_, (size_some cs usual).2 counts⟩

theorem size_refused {cs : List Char} (usual : Int) (counts : IsSize cs)
    (illegible : ¬ IsLegible cs) : ∃ fault, size (some cs) usual = .error (.reading fault) := by
  rw [← readInteger_ok_iff counts, not_exists] at illegible
  cases read : readInteger (String.ofList cs) with
  | ok n => exact absurd read (illegible n)
  | error refusal =>
    obtain ⟨fault, refused⟩ := (integerOf_eq (.text (String.ofList cs)) _).2 refusal read
    rw [(size_some cs usual).1 counts, refused]
    exact ⟨fault, rfl⟩

/-! ## Natural sizes -/

theorem isDecimalDigit_natural {n : Nat} : ∀ c ∈ natural n, isDecimalDigit c = true := by
  intro c member
  rw [isDecimalDigit, decimalDigit?_of_isDigit (isDigit_natural c member)]
  rfl

theorem decimalValue_natural (n : Nat) :
    decimalValue ((natural n).filterMap decimalDigit?) = n := by
  have values {cs : List Char} (digits : ∀ c ∈ cs, c.isDigit = true) :
      cs.filterMap decimalDigit? = cs.map fun c => c.toNat - '0'.toNat := by
    induction cs with
    | nil => rfl
    | cons c cs ih =>
      rw [List.filterMap_cons_some (decimalDigit?_of_isDigit (digits c (by simp))),
        ih fun d member => digits d (List.mem_cons_of_mem _ member), List.map_cons]
  rw [values isDigit_natural, decimalValue, List.foldl_map]
  exact Nat.ofDigitChars_ten_toDigits

theorem size_natural (n : Nat) (usual : Int) :
    size (some (natural n)) usual =
      if digitLimit < (natural n).length then
        .error (.reading (.tooManyDigits (natural n).length))
      else .ok (.int n) := by
  have digits : ∀ c ∈ natural n, isDigit c = true := fun c member =>
    isDigit_of_isDecimalDigit (isDecimalDigit_natural c member)
  have counts : IsSize (natural n) := by
    rw [IsSize, trimChars_visible fun c member => not_isBlank_of_isDigit (digits c member)]
    exact ⟨natural_ne_nil n, digits⟩
  have none : ∀ c ∈ ([] : List Char), isSpacing c = true := by simp
  have read := readInteger_run none (natural_ne_nil n) isDecimalDigit_natural none
  rw [List.nil_append, List.append_nil, decimalValue_natural] at read
  rw [(size_some _ usual).1 counts, Value.integerOf, read]
  by_cases long : digitLimit < (natural n).length
  · rw [if_pos long, if_pos long]
    rfl
  · rw [if_neg long, if_neg long]
    rfl

end Description

end FluentSql
