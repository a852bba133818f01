import FluentSql.Proofs.Descriptions
import FluentSql.Proofs.QuotedTexts
import FluentSql.Schema.Definition

/-!
# Types read back

MySQL is given a type as a word, mostly with a size or with the texts of an
enumeration in parentheses. A description with this type gives the column
back: the last closing parenthesis is the one that was written last, whatever
the texts hold, and the quotes between the parentheses close one text after
the other. A size of too many digits is not written, so there is no type to
read; every other size comes back.
-/

set_option autoImplicit false

namespace FluentSql.Description

open Text

/-! ## Columns that have a type in MySQL -/

def integerNames : List String :=
  ["INT", "BIGINT", "SMALLINT", "TINYINT", "MEDIUMINT"]

def stringNames : List String :=
  ["VARCHAR", "CHAR"]

def textNames : List String :=
  ["TEXT", "MEDIUMTEXT", "LONGTEXT", "JSON"]

def dateTimeNames : List String :=
  ["DATETIME", "TIMESTAMP", "DATE", "TIME"]

/-- The type name belongs to the family, whose parts are numbers, flags and texts as they should
be; the size is zero where there is none. -/
inductive IsStandard : String → Column.Family → Nat → Prop where
  | integer {type : String} (listed : type ∈ integerNames) (length : Nat) (isUnsigned : Bool)
      (increments : Value) :
      IsStandard type (.integer (.int length) (.bool isUnsigned) increments) length
  | string {type : String} (listed : type ∈ stringNames) (length : Nat) :
      IsStandard type (.string (.int length)) length
  | text {type : String} (listed : type ∈ textNames) : IsStandard type .text 0
  | dateTime {type : String} (listed : type ∈ dateTimeNames) (onUpdate : Value)
      (precision : Nat) : IsStandard type (.dateTime onUpdate (.int precision)) precision
  | enumeration (texts : List String) (plain : ∀ s ∈ texts, '\\' ∉ s.toList) :
      IsStandard "ENUM" (.enumeration (texts.map .text)) 0

def describing (d : Description) (c : Column) (written : Value) : Description :=
  { d with
    name := some c.name
    type := some written
    nullable := some c.nullable }

/-- The family with those flags that do not stand in the type but beside it. -/
def completed (d : Description) : Column.Family → Column.Family
  | .integer length isUnsigned _ => .integer length isUnsigned (.bool d.increasing)
  | .dateTime _ precision =>
    .dateTime (.bool (mentions "on update".toList d.extraText)) precision
  | family => family

/-! ## Type texts -/

theorem splitAtLast_absent {cs : List Char} (absent : ')' ∉ cs) : splitAtLast cs = none := by
  induction cs with
  | nil => rfl
  | cons c cs ih =>
    rw [List.mem_cons, not_or] at absent
    rw [splitAtLast, ih absent.2]
    exact if_neg (Ne.symm absent.1)

theorem splitAtLast_append (inner : List Char) {rest : List Char} (absent : ')' ∉ rest) :
    splitAtLast (inner ++ ')' :: rest) = some (inner, rest) := by
  induction inner with
  | nil =>
    rw [List.nil_append, splitAtLast, splitAtLast_absent absent]
    rfl
  | cons c inner ih => rw [List.cons_append, splitAtLast, ih]

def IsTypeWord (type : String) : Prop :=
  type.toList ≠ [] ∧ type.toList.all isWord = true

instance (type : String) : Decidable (IsTypeWord type) :=
  inferInstanceAs (Decidable (_ ∧ _))

variable {type : String} {rest : List Char}

theorem read?_word (word : IsTypeWord type) (rest : List Char)
    (ends : ∀ c ∈ rest.head?, isWord c = false) :
    TypeText.read? (type.toList ++ rest) =
      some ⟨type.toList, (argumentsOf (trimStart rest)).1, (argumentsOf (trimStart rest)).2⟩ := by
  obtain ⟨filled, chars⟩ := word
  rw [List.all_eq_true] at chars
  have stops : rest.takeWhile isWord = [] ∧ rest.dropWhile isWord = rest := by
    cases rest with
    | nil => exact ⟨rfl, rfl⟩
    | cons c rest => simp [ends c rfl]
  have begins : trimStart (type.toList ++ rest) = type.toList ++ rest := by
    obtain ⟨c, cs, same⟩ := List.exists_cons_of_ne_nil filled
    have visible := not_isBlank_of_isWord (chars c (by simp [same]))
    rw [same]
    exact List.dropWhile_cons_of_neg (by simp [visible])
  rw [TypeText.read?, begins]
  simp only [List.takeWhile_append_of_pos chars, List.dropWhile_append_of_pos chars, stops,
    List.append_nil]

theorem read?_bare (word : IsTypeWord type) :
    TypeText.read? type.toList = some ⟨type.toList, none, []⟩ := by
  have read := read?_word word [] (by simp)
  rwa [List.append_nil] at read

theorem read?_arguments (word : IsTypeWord type) (inner rest : List Char) (absent : ')' ∉ rest) :
    TypeText.read? (type.toList ++ '(' :: (inner ++ ')' :: rest)) =
      some ⟨type.toList, some inner, rest⟩ := by
  have ends : ∀ c ∈ ('(' :: (inner ++ ')' :: rest)).head?, isWord c = false := by
    simp only [List.head?_cons, Option.mem_def, Option.some.injEq, forall_eq']
    decide +kernel
  have begins : trimStart ('(' :: (inner ++ ')' :: rest)) = '(' :: (inner ++ ')' :: rest) :=
    List.dropWhile_cons_of_neg (by decide)
  rw [read?_word word _ ends, begins, argumentsOf, splitAtLast_append inner absent]

/-! ## Written types -/

theorem integer_listed : ∀ type ∈ integerNames,
    IsTypeWord type ∧ integerTypes.lookup (lower type) = some type := by
  decide +kernel

theorem string_listed : ∀ type ∈ stringNames,
    IsTypeWord type ∧ integerTypes.lookup (lower type) = none ∧
      stringTypes.lookup (lower type) = some type := by
  decide +kernel

theorem text_listed : ∀ type ∈ textNames,
    IsTypeWord type ∧ integerTypes.lookup (lower type) = none ∧
      stringTypes.lookup (lower type) = none ∧ textTypes.lookup (lower type) = some type := by
  decide +kernel

theorem dateTime_listed : ∀ type ∈ dateTimeNames,
    IsTypeWord type ∧ integerTypes.lookup (lower type) = none ∧
      stringTypes.lookup (lower type) = none ∧ textTypes.lookup (lower type) = none ∧
      dateTimeTypes.lookup (lower type) = some type := by
  decide +kernel

theorem enum_listed :
    integerTypes.lookup (lower "ENUM") = none ∧ stringTypes.lookup (lower "ENUM") = none ∧
      textTypes.lookup (lower "ENUM") = none ∧ dateTimeTypes.lookup (lower "ENUM") = none ∧
      lower "ENUM" = "enum" := by
  decide +kernel

theorem plain_natural (n : Nat) : (Value.int n).plain = String.ofList (natural n) := by
  show String.ofList (integer n) = _
  rw [integer, if_neg (by omega), Int.natAbs_natCast]

theorem sized_natural (type : String) (n : Nat) :
    Dialect.sized (.text type) (.int n) =
      if (natural n).length ≤ digitLimit then
        .ok (type ++ "(" ++ String.ofList (natural n) ++ ")")
      else .error (.reading .unwritable) := by
  rw [Dialect.sized, Value.written, plain_natural, apply_ite (Except.map _)]
  simp only [Value.isWritable, Int.natAbs_natCast, decide_eq_true_eq]
  rfl

theorem read?_sized (word : IsTypeWord type) (n : Nat) (suffix : String)
    (absent : ')' ∉ suffix.toList) :
    TypeText.read? (type ++ "(" ++ String.ofList (natural n) ++ ")" ++ suffix).toList =
      some ⟨type.toList, some (natural n), suffix.toList⟩ := by
  rw [← read?_arguments word (natural n) _ absent]
  simp

theorem read?_size (word : IsTypeWord type) (n : Nat) :
    TypeText.read? (type ++ "(" ++ String.ofList (natural n) ++ ")").toList =
      some ⟨type.toList, some (natural n), []⟩ := by
  simpa using read?_sized word n "" (by simp)

theorem read?_enumerated (texts : List String) :
    TypeText.read? ("ENUM(" ++ Dialect.enumerated .mysql (texts.map .text) ++ ")").toList =
      some ⟨"ENUM".toList,
        some (", ".intercalate (texts.map LiteralStyle.mysql.text)).toList, []⟩ := by
  have word : IsTypeWord "ENUM" := by decide +kernel
  rw [← read?_arguments word _ [] (by simp), Dialect.enumerated, List.map_map]
  simp [Function.comp_def, Value.plain, Dialect.literals]

theorem mentions_unsigned (isUnsigned : Bool) :
    mentions "unsigned".toList (lowerChars (if isUnsigned then " UNSIGNED" else "").toList) =
      isUnsigned := by
  revert isUnsigned
  decide +kernel

theorem map_size {α : Type} {n : Nat} (short : (natural n).length ≤ digitLimit) (usual : Int)
    (build : Value → α) : (size (some (natural n)) usual).map build = .ok (build (.int n)) := by
  rw [size_natural, if_neg (Nat.not_lt.mpr short)]
  rfl

/-! ## Columns read back -/

variable {d : Description} {c : Column} {n : Nat}

theorem truthy_precision (n : Nat) : (Value.int (n + 1 : Nat)).truthy = true := by
  rw [Value.truthy, bne_iff_ne]
  omega

theorem family_back (d : Description) (typed : c.type = .text type)
    (standard : IsStandard type c.family n) (short : (natural n).length ≤ digitLimit) :
    ∃ written t, Dialect.mysql.columnType c = .ok (.text written) ∧
      TypeText.read? written.toList = some t ∧
      d.family written t = .ok (type, d.completed c.family) := by
  have word : lower (String.ofList type.toList) = lower type := by rw [String.ofList_toList]
  have sized := (sized_natural type n).trans (if_pos short)
  rw [Dialect.columnType, Dialect.mysqlType, typed]
  generalize c.family = given at standard
  cases standard with
  | integer listed _ isUnsigned =>
    obtain ⟨named, found⟩ := integer_listed type listed
    refine ⟨_, _, congrArg (Except.map _) sized, read?_sized named n _ ?_, ?_⟩
    · cases isUnsigned <;> decide
    · rw [family]
      simp only [word, found, map_size short]
      rw [show (Value.bool isUnsigned).truthy = isUnsigned from rfl, mentions_unsigned]
      rfl
  | string listed =>
    obtain ⟨named, noInteger, found⟩ := string_listed type listed
    refine ⟨_, _, congrArg (Except.map _) sized, read?_size named n, ?_⟩
    rw [family]
    simp only [word, noInteger, found, map_size short]
    rfl
  | text listed =>
    obtain ⟨named, noInteger, noString, found⟩ := text_listed type listed
    refine ⟨_, _, rfl, read?_bare named, ?_⟩
    rw [family]
    simp only [word, noInteger, noString, found]
    rfl
  | dateTime listed =>
    obtain ⟨named, noInteger, noString, noText, found⟩ := dateTime_listed type listed
    -- A precision of zero is not written, and is the usual one.
    cases n with
    | zero =>
      refine ⟨_, _, rfl, read?_bare named, ?_⟩
      rw [family]
      simp only [word, noInteger, noString, noText, found]
      rfl
    | succ n =>
      refine ⟨_, _, (if_pos (truthy_precision n)).trans (congrArg (Except.map _) sized),
        read?_size named (n + 1), ?_⟩
      rw [family]
      simp only [word, noInteger, noString, noText, found, map_size short]
      rfl
  | enumeration texts plain =>
    have same : texts.map (fun s => String.ofList (LiteralStyle.mysql.readBack s.toList)) =
        texts := by
      refine (List.map_congr_left fun s member => ?_).trans (List.map_id texts)
      rw [(LiteralStyle.readBack_eq_iff s.toList).mpr (.inr (plain s member)), String.ofList_toList]
      rfl
    refine ⟨_, _, rfl, read?_enumerated texts, ?_⟩
    obtain ⟨noInteger, noString, noText, noDateTime, found⟩ := enum_listed
    have word : lower (String.ofList "ENUM".toList) = lower "ENUM" := by rw [String.ofList_toList]
    rw [family]
    simp only [word, noInteger, noString, noText, noDateTime]
    rw [if_pos found, Option.getD_some, quotedTexts_commas, same]
    rfl

theorem columnType_long (typed : c.type = .text type) (standard : IsStandard type c.family n)
    (long : digitLimit < (natural n).length) :
    Dialect.mysql.columnType c = .error (.reading .unwritable) := by
  have sized := (sized_natural type n).trans (if_neg (Nat.not_le.mpr long))
  have none : ¬ digitLimit < (natural 0).length := by decide
  rw [Dialect.columnType, Dialect.mysqlType, typed]
  generalize c.family = given at standard
  cases standard with
  | integer | string => exact congrArg (Except.map _) sized
  | text | enumeration => exact absurd long none
  | dateTime =>
    cases n with
    | zero => exact absurd long none
    | succ n => exact (if_pos (truthy_precision n)).trans (congrArg (Except.map _) sized)

/-- A description with the type that MySQL is given for a column gives an unchanged column of the
same name, type and nullability, with the same size, sign and texts. The type is there as long as
the size may be written. -/
theorem type_reads_back (d : Description) {c : Column} {type : String} {nullable : Bool} {n : Nat}
    (typed : c.type = .text type) (flagged : c.nullable = .bool nullable)
    (standard : IsStandard type c.family n) :
    ((∃ written, Dialect.mysql.columnType c = .ok written) ↔ (natural n).length ≤ digitLimit) ∧
      ∀ written, Dialect.mysql.columnType c = .ok written →
        ∃ read, (d.describing c written).column = .ok read ∧ read.state = .unchanged ∧
          read.name = c.name ∧ read.type = c.type ∧ read.nullable = c.nullable ∧
          read.family = d.completed c.family := by
  by_cases short : (natural n).length ≤ digitLimit
  · have back (given : Value) := family_back (d.describing c given) typed standard short
    refine ⟨iff_of_true ?_ short, fun written there => ?_⟩
    · obtain ⟨written, -, there, -⟩ := back .null
      exact ⟨_, there⟩
    · obtain ⟨text, t, given, read, family⟩ := back written
      obtain rfl := Except.ok.inj (there.symm.trans given)
      have named : (d.describing c (.text text)).name = some c.name := rfl
      have stated : (d.describing c (.text text)).type = some (.text text) := rfl
      have settled := column_eq named stated
      rw [read] at settled
      dsimp only at settled
      rw [family] at settled
      refine ⟨_, settled, rfl, rfl, typed.symm, ?_, rfl⟩
      show Value.bool c.nullable.truthy = c.nullable
      rw [flagged]
      rfl
  · have none := columnType_long typed standard (Nat.not_le.mp short)
    refine ⟨iff_of_false ?_ short, fun written there => ?_⟩
    · rintro ⟨written, there⟩
      cases none.symm.trans there
    · cases none.symm.trans there

/-- An enumeration whose texts hold all the marks that its type is read by. -/
def marks : Column where
  name := .text "mark"
  type := .text "ENUM"
  nullable := .bool false
  family := .enumeration (["it's", "', '", "a,b", "(c)", "", ")\n", "''"].map .text)

theorem marks_read_back :
    IsStandard "ENUM" marks.family 0 ∧
      Dialect.mysql.columnType marks =
        .ok (.text "ENUM('it''s', ''', ''', 'a,b', '(c)', '', ')\n', '''''')") ∧
      ∃ read, (describing {} marks
          (.text "ENUM('it''s', ''', ''', 'a,b', '(c)', '', ')\n', '''''')")).column = .ok read ∧
        read.state = .unchanged ∧ read.name = marks.name ∧ read.type = marks.type ∧
        read.nullable = marks.nullable ∧ read.family = marks.family := by
  have standard : IsStandard "ENUM" marks.family 0 := .enumeration _ (by decide)
  have written : Dialect.mysql.columnType marks =
      .ok (.text "ENUM('it''s', ''', ''', 'a,b', '(c)', '', ')\n', '''''')") :=
    congrArg (Except.ok ∘ Value.text) (by decide +kernel)
  exact ⟨standard, written, (type_reads_back {} rfl rfl standard).2 _ written⟩

end FluentSql.Description
