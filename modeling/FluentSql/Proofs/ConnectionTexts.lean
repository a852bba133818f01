import FluentSql.Proofs.PercentEscapes
import FluentSql.Settings

/-!
# Connection texts

A connection text is divided at the first of each of its marks, from the left.
Where driver, user and host hold no colon, the pieces are the parts the text
was put together from. The password stands in it escaped, so it may be any
text whatever, as the database may.
-/

set_option autoImplicit false

namespace FluentSql.DatabaseSettings

def cutAt? (mark : List Char) : List Char → Option (List Char × List Char)
  | [] => none
  | c :: cs =>
    if mark.isPrefixOf (c :: cs) then some ([], (c :: cs).drop mark.length)
    else (cutAt? mark cs).map fun (before, after) => (c :: before, after)

/-- The texts between the marks of a connection text. -/
structure Pieces where
  driver : String
  user : String
  password : String
  host : String
  port : String
  database : String

def pieces? (text : String) : Option Pieces := do
  let (driver, rest) ← cutAt? [':', '/', '/'] text.toList
  let (user, rest) ← cutAt? [':'] rest
  let (password, rest) ← cutAt? ['@'] rest
  let (host, rest) ← cutAt? [':'] rest
  let (port, database) ← cutAt? ['/'] rest
  some {
    driver := String.ofList driver
    user := String.ofList user
    password := String.ofList password
    host := String.ofList host
    port := String.ofList port
    database := String.ofList database }

/-- What a connection text is put together from when every part is of its usual kind. -/
structure Parts where
  driver : String
  user : String
  password : String
  host : String
  port : Int
  database : String

def Parts.text (parts : Parts) : String :=
  parts.driver ++ "://" ++ parts.user ++ ":" ++ Text.Percent.escape parts.password ++ "@" ++
    parts.host ++ ":" ++ Value.intText parts.port ++ "/" ++ parts.database

structure Parts.IsDelimited (parts : Parts) : Prop where
  driver : ':' ∉ parts.driver.toList
  user : ':' ∉ parts.user.toList
  host : ':' ∉ parts.host.toList

structure HasParts (s : DatabaseSettings) (parts : Parts) : Prop where
  driver : s.driver = .text parts.driver
  user : s.user = .text parts.user
  password : s.password = .text parts.password
  host : s.host = .text parts.host
  port : s.port = .int parts.port
  database : s.database = .text parts.database

structure Pieces.Stand (pieces : Pieces) (parts : Parts) : Prop where
  driver : pieces.driver = parts.driver
  user : pieces.user = parts.user
  password : Text.Percent.unescapeForm pieces.password = parts.password
  host : pieces.host = parts.host
  port : pieces.port = Value.intText parts.port
  database : pieces.database = parts.database

def Splits (text : String) (parts : Parts) : Prop :=
  ∃ pieces, pieces? text = some pieces ∧ pieces.Stand parts

theorem cutAt?_between {m : Char} {before : List Char} (free : m ∉ before)
    (mark after : List Char) :
    cutAt? (m :: mark) (before ++ (m :: mark ++ after)) = some (before, after) := by
  induction before with
  | nil =>
    have starts : (m :: mark).isPrefixOf (m :: mark ++ after) = true :=
      List.isPrefixOf_iff_prefix.mpr (List.prefix_append _ _)
    rw [List.nil_append, List.cons_append, cutAt?, ← List.cons_append, if_pos starts,
      List.drop_left]
  | cons c before ih =>
    have other : m ≠ c := fun same => free (by simp [same])
    have later : m ∉ before := fun h => free (List.mem_cons_of_mem _ h)
    have starts : (m :: mark).isPrefixOf (c :: (before ++ (m :: mark ++ after))) = false := by
      rw [List.isPrefixOf_cons_cons, beq_false_of_ne other, Bool.false_and]
    rw [List.cons_append, cutAt?, starts, ih later]
    rfl

theorem slash_not_mem_intText (n : Int) : '/' ∉ (Value.intText n).toList := by
  intro h
  rw [Value.intText, String.toList_ofList] at h
  rcases Text.mem_integer h with minus | digit
  · exact absurd minus (by decide)
  · exact absurd digit (by decide)

theorem at_not_mem_escape (password : String) :
    '@' ∉ (Text.Percent.escape password).toList := fun h =>
  absurd (Text.Percent.isEscaped_escape password _ h) (by decide)

theorem Parts.IsDelimited.pieces?_text {parts : Parts} (h : parts.IsDelimited) :
    pieces? parts.text = some {
      driver := parts.driver
      user := parts.user
      password := Text.Percent.escape parts.password
      host := parts.host
      port := Value.intText parts.port
      database := parts.database } := by
  have whole : parts.text.toList =
      parts.driver.toList ++ ([':', '/', '/'] ++ (parts.user.toList ++ ([':'] ++
        ((Text.Percent.escape parts.password).toList ++ (['@'] ++ (parts.host.toList ++ ([':'] ++
          ((Value.intText parts.port).toList ++ (['/'] ++ parts.database.toList))))))))) := by
    simp [Parts.text]
  simp only [pieces?, whole, cutAt?_between h.driver, cutAt?_between h.user,
    cutAt?_between (at_not_mem_escape parts.password), cutAt?_between h.host,
    cutAt?_between (slash_not_mem_intText parts.port), Option.bind_eq_bind, Option.bind_some,
    String.ofList_toList]

theorem Parts.IsDelimited.splits {parts : Parts} (h : parts.IsDelimited) :
    Splits parts.text parts := by
  refine ⟨_, h.pieces?_text, rfl, rfl, ?_, rfl, rfl, rfl⟩
  exact Text.Percent.unescapeForm_escape parts.password

theorem HasParts.assembled {s : DatabaseSettings} {parts : Parts} (h : s.HasParts parts) :
    s.assembled = .ok parts.text := by
  rw [DatabaseSettings.assembled, h.driver, h.user, h.password, h.host, h.port, h.database]
  rfl

theorem connectionText_of_unset {s : DatabaseSettings} (unset : s.url.truthy = false) :
    s.connectionText = s.assembled.map .text := by
  rw [connectionText, unset]
  rfl

theorem overridden_of_isEmpty {o : Overrides} (h : o.isEmpty = true) (s : DatabaseSettings) :
    s.overridden o = s := by
  simp only [Overrides.isEmpty, List.all_cons, List.all_nil, Bool.and_true,
    Bool.and_eq_true] at h
  obtain ⟨driver, host, port, user, password, database⟩ := h
  rw [overridden, either, if_pos driver, either, if_pos host, either, if_pos port, either,
    if_pos user, either, if_pos password, either, if_pos database]

theorem connectionTextWith_of_unset {s : DatabaseSettings} (unset : s.url.truthy = false)
    (o : Overrides) : s.connectionTextWith o = (s.overridden o).assembled.map .text := by
  rw [connectionTextWith]
  by_cases empty : o.isEmpty = true
  · rw [if_pos empty, connectionText_of_unset unset, overridden_of_isEmpty empty]
  · rw [if_neg empty]

/-- With no URL set the connection text is divided into the parts, whatever the password, both when
it is made of the settings alone and when given parts take the place of some of them. -/
theorem connection_texts_split (s : DatabaseSettings) (unset : s.url.truthy = false) :
    (∀ parts : Parts, parts.IsDelimited → s.HasParts parts →
      ∃ text, s.connectionText = .ok (.text text) ∧ Splits text parts) ∧
    ∀ (o : Overrides) (parts : Parts), parts.IsDelimited → (s.overridden o).HasParts parts →
      ∃ text, s.connectionTextWith o = .ok (.text text) ∧ Splits text parts := by
  constructor
  · intro parts delimited has
    refine ⟨parts.text, ?_, delimited.splits⟩
    rw [connectionText_of_unset unset, has.assembled]
    rfl
  · intro o parts delimited has
    refine ⟨parts.text, ?_, delimited.splits⟩
    rw [connectionTextWith_of_unset unset, has.assembled]
    rfl

/-- A password of marks, escapes and characters of two and four bytes. -/
theorem hostile_passwords_split :
    (∃ text, ({ password := .text "p@ss:w/rd +%é😀" } : DatabaseSettings).connectionText =
        .ok (.text text) ∧
      Splits text {
        driver := "mysql+pymysql", user := "root", password := "p@ss:w/rd +%é😀"
        host := "localhost", port := 3306, database := "app" }) ∧
    ∃ text, ({ password := .text "p@ss:w/rd +%é😀" } : DatabaseSettings).connectionTextWith
        { user := .text "reader", port := .int (-1), database := .text "a/b@c:d" } =
        .ok (.text text) ∧
      Splits text {
        driver := "mysql+pymysql", user := "reader", password := "p@ss:w/rd +%é😀"
        host := "localhost", port := -1, database := "a/b@c:d" } := by
  have split := connection_texts_split { password := .text "p@ss:w/rd +%é😀" } rfl
  constructor
  · exact split.1 _ ⟨by decide, by decide, by decide⟩ ⟨rfl, rfl, rfl, rfl, rfl, rfl⟩
  · exact split.2 _ _ ⟨by decide, by decide, by decide⟩ ⟨rfl, rfl, rfl, rfl, rfl, rfl⟩

end FluentSql.DatabaseSettings
