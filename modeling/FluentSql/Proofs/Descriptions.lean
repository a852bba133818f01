import FluentSql.Proofs.Sizes

/-!
# What comes of a description

A description of a column is refused if its type does not begin with a known
word. Otherwise it gives an unchanged column, whatever it says of nulls, of
defaults and of extras, unless the type has a size that counts as one and is
not legible. Such a size is refused as an integer, not as a type.
-/

set_option autoImplicit false

namespace FluentSql.Description

def TypeText.word (t : TypeText) : String :=
  Text.lower (String.ofList t.base)

def sizedWords : List String :=
  (integerTypes ++ stringTypes ++ dateTimeTypes).map Prod.fst

def knownWords : List String :=
  sizedWords ++ textTypes.map Prod.fst ++ ["enum"]

def HasKnownWord (written : String) : Prop :=
  ∃ t, TypeText.read? written.toList = some t ∧ t.word ∈ knownWords

/-- The type may have a size, and what it has counts as one but cannot be read. -/
def HasIllegibleSize (written : String) : Prop :=
  ∃ t cs, TypeText.read? written.toList = some t ∧ t.word ∈ sizedWords ∧
    t.arguments = some cs ∧ IsSize cs ∧ ¬ IsLegible cs

/-! ## Families -/

variable {d : Description} {written : String} {t : TypeText}

theorem family_sized (d : Description) (written : String) (sized : t.word ∈ sizedWords) :
    ∃ usual build, d.family written t = (size t.arguments usual).map build := by
  unfold family
  change Text.lower (String.ofList t.base) ∈ _ at sized
  generalize Text.lower (String.ofList t.base) = word at sized
  simp only [sizedWords, integerTypes, stringTypes, dateTimeTypes, List.map_cons, List.map_nil,
    List.cons_append, List.nil_append, List.mem_cons, List.not_mem_nil,
    or_false] at sized
  rcases sized with rfl | rfl | rfl | rfl | rfl | rfl | rfl | rfl | rfl | rfl | rfl | rfl
  all_goals exact ⟨_, _, rfl⟩

theorem family_unsized (known : t.word ∈ knownWords) (unsized : t.word ∉ sizedWords) :
    ∃ p, d.family written t = .ok p := by
  have rest : t.word ∈ textTypes.map Prod.fst ++ ["enum"] := by
    rw [knownWords, List.append_assoc, List.mem_append] at known
    exact known.resolve_left unsized
  unfold family
  change Text.lower (String.ofList t.base) ∈ _ at rest
  generalize Text.lower (String.ofList t.base) = word at rest
  simp only [textTypes, List.map_cons, List.map_nil, List.cons_append, List.nil_append,
    List.mem_cons, List.not_mem_nil, or_false] at rest
  rcases rest with rfl | rfl | rfl | rfl | rfl | rfl
  all_goals exact ⟨_, rfl⟩

theorem lookup_absent {types : List (String × String)} {word : String}
    (absent : word ∉ types.map Prod.fst) : types.lookup word = none := by
  rw [List.lookup_eq_none_iff]
  intro entry listed
  rw [bne_iff_ne]
  rintro rfl
  exact absent (List.mem_map_of_mem listed)

theorem family_unknown (unknown : t.word ∉ knownWords) :
    d.family written t = .error (.schema (.columnType written)) := by
  simp only [knownWords, sizedWords, List.map_append, List.mem_append, List.mem_singleton,
    not_or] at unknown
  obtain ⟨⟨⟨⟨integer, string⟩, dateTime⟩, text⟩, enumeration⟩ := unknown
  unfold family
  change Text.lower (String.ofList t.base) ≠ _ at enumeration
  change Text.lower (String.ofList t.base) ∉ _ at integer string dateTime text
  simp only [lookup_absent integer, lookup_absent string, lookup_absent dateTime,
    lookup_absent text, if_neg enumeration]

/-! ## Columns -/

def described (d : Description) (name : Value) (type : String × Column.Family) : Column where
  name := name
  type := .text type.1
  nullable := .bool ((d.nullable.getD (.bool true)).truthy)
  default := (readDefault d.default).1
  isExpression := .bool (readDefault d.default).2
  state := .unchanged
  family := type.2

theorem column_eq {name : Value} (named : d.name = some name)
    (typed : d.type = some (.text written)) :
    d.column =
      match TypeText.read? written.toList with
      | none => .error (.schema (.columnType written))
      | some t => (d.family written t).map (d.described name) := by
  rw [column, named, typed]
  simp only [required, bind, Except.bind, Value.plain]
  cases TypeText.read? written.toList with
  | none => rfl
  | some t => cases d.family written t <;> rfl

/-- What is said of a default decides on the default of the column, and on nothing else. -/
theorem column_default (d : Description) (given : Option Value) :
    ({ d with default := given } : Description).column = d.column.map fun c =>
      { c with
        default := (readDefault given).1
        isExpression := .bool (readDefault given).2 } := by
  have family (t : TypeText) (written : String) :
      ({ d with default := given } : Description).family written t = d.family written t := rfl
  simp only [column, bind, Except.bind, family]
  cases required "type" d.type with
  | error => rfl
  | ok type =>
    dsimp only
    cases TypeText.read? type.plain.toList with
    | none => rfl
    | some t =>
      dsimp only
      cases required "name" d.name with
      | error => rfl
      | ok name =>
        dsimp only
        cases d.family type.plain t <;> rfl

variable {name : Value}

theorem column_known (named : d.name = some name) (typed : d.type = some (.text written))
    (known : HasKnownWord written) (legible : ¬ HasIllegibleSize written) :
    ∃ c, d.column = .ok c ∧ c.state = .unchanged := by
  obtain ⟨t, read, listed⟩ := known
  have settled : ∃ p, d.family written t = .ok p := by
    by_cases sized : t.word ∈ sizedWords
    · obtain ⟨usual, build, built⟩ := family_sized d written sized
      obtain ⟨v, fits⟩ := size_ok usual fun cs given counts =>
        Classical.not_not.mp fun illegible => legible ⟨t, cs, read, sized, given, counts, illegible⟩
      exact ⟨build v, by rw [built, fits]; rfl⟩
    · exact family_unsized listed sized
  obtain ⟨p, settled⟩ := settled
  refine ⟨d.described name p, ?_, rfl⟩
  rw [column_eq named typed, read]
  simp only [settled]
  rfl

theorem column_unknown (named : d.name = some name) (typed : d.type = some (.text written))
    (unknown : ¬ HasKnownWord written) : d.column = .error (.schema (.columnType written)) := by
  rw [column_eq named typed]
  cases read : TypeText.read? written.toList with
  | none => rfl
  | some t =>
    simp only
    rw [family_unknown fun listed => unknown ⟨t, read, listed⟩]
    rfl

theorem column_illegible (named : d.name = some name) (typed : d.type = some (.text written))
    (illegible : HasIllegibleSize written) : ∃ fault, d.column = .error (.reading fault) := by
  obtain ⟨t, cs, read, sized, given, counts, unread⟩ := illegible
  obtain ⟨usual, build, built⟩ := family_sized d written sized
  obtain ⟨fault, refused⟩ := size_refused usual counts unread
  refine ⟨fault, ?_⟩
  rw [column_eq named typed, read]
  simp only [built, given, refused]
  rfl

theorem HasIllegibleSize.known (h : HasIllegibleSize written) : HasKnownWord written := by
  obtain ⟨t, _, read, sized, _⟩ := h
  exact ⟨t, read, by simp [knownWords, sized]⟩

/-- A description with a name and a type text gives an unchanged column or is refused for its type,
unless the size in its type is not legible: that is refused as an integer. -/
theorem settled_or_refused_iff (d : Description) (name written : String) :
    let result := { d with name := some (.text name), type := some (.text written) }.column
    (((∃ c, result = .ok c ∧ c.state = .unchanged) ∨ ∃ fault, result = .error (.schema fault)) ↔
      ¬ HasIllegibleSize written) ∧
    ((∃ fault, result = .error (.schema fault)) ↔ ¬ HasKnownWord written) ∧
    ((∃ fault, result = .error (.reading fault)) ↔ HasIllegibleSize written) := by
  intro result
  have named : { d with name := some (.text name), type := some (.text written) }.name =
    some (.text name) := rfl
  have typed : { d with name := some (.text name), type := some (.text written) }.type =
    some (.text written) := rfl
  by_cases illegible : HasIllegibleSize written
  · obtain ⟨fault, refused⟩ := column_illegible named typed illegible
    have known := illegible.known
    simp [result, refused, illegible, known]
  · by_cases known : HasKnownWord written
    · obtain ⟨c, settled, unchanged⟩ := column_known named typed known illegible
      simp [result, settled, unchanged, illegible, known]
    · have refused := column_unknown named typed known
      simp [result, refused, illegible, known]

/-- A superscript digit counts as a size but is not a decimal digit. -/
example :
    (match ({ name := some (.text "n"), type := some (.text "int(²)") } : Description).column with
      | .ok _ => none
      | .error fault => some fault.message) =
    some "invalid literal for int() with base 10: '²'" := by
  decide +kernel

end FluentSql.Description
