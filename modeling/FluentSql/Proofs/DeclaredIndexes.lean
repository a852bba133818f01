import FluentSql.Proofs.AlterHistory

/-!
# Indexes declared without a name

An index without a name of its own is called after its table, its columns and
its kind, and an index takes the place of one of the same name. Hyphens and
dots become underscores, capitals become small, and underscores also part the
columns, so two lists of columns may have one name. Every declared index is
created if and only if that does not happen among the declared ones.
-/

set_option autoImplicit false

namespace FluentSql

/-! ## Things filed under their own keys -/

namespace Keyed

variable {α : Type}

structure Filed (key : α → Value) (entries : List (Value × α)) : Prop where
  own : ∀ entry ∈ entries, entry.1 = key entry.2
  distinct : (entries.map Prod.fst).Nodup

variable {key : α → Value} {entries : List (Value × α)}

theorem Filed.put (h : Filed key entries) {x : α} (text : ∃ s, key x = .text s) :
    Filed key (put (key x) x entries) := by
  obtain ⟨s, text⟩ := text
  constructor
  · intro entry member
    rcases mem_put member with old | ⟨rfl, same | same⟩
    · exact h.own entry old
    · exact same
    · rw [text] at same ⊢
      exact (Value.beq_text _ _).mp same
  · rw [keys_put]
    split
    · exact h.distinct
    · next new =>
      refine List.nodup_append.mpr ⟨h.distinct, List.nodup_singleton _, ?_⟩
      rintro k member _ only rfl
      obtain rfl := List.mem_singleton.mp only
      obtain ⟨entry, member, same⟩ := List.mem_map.mp member
      refine new (List.any_eq_true.mpr ⟨entry, member, ?_⟩)
      rw [same, text]
      exact (Value.beq_text _ _).mpr rfl

theorem Filed.putEach (h : Filed key entries) {added : List α}
    (texts : ∀ x ∈ added, ∃ s, key x = .text s) : Filed key (putEach key entries added) := by
  induction added generalizing entries with
  | nil => exact h
  | cons x added ih =>
    rw [List.forall_mem_cons] at texts
    exact ih (h.put texts.1) texts.2

theorem Filed.find?_iff (h : Filed key entries) {x : α} (text : ∃ s, key x = .text s) :
    find? (key x) entries = some x ↔ x ∈ entries.map Prod.snd := by
  obtain ⟨s, text⟩ := text
  constructor
  · intro found
    obtain ⟨k, member, -⟩ := mem_of_find? found
    exact List.mem_map_of_mem member
  · intro member
    obtain ⟨entry, there, rfl⟩ := List.mem_map.mp member
    have filed : (key entry.2, entry.2) ∈ entries := by
      rw [← h.own entry there]
      exact there
    exact find?_of_mem h.distinct filed fun k => by rw [text]; exact Value.beq_text k s

theorem find?_putEach (added : List α) (texts : ∀ x ∈ added, ∃ s, key x = .text s) {x : α}
    (member : x ∈ added) (only : ∀ y ∈ added, key y = key x → y = x) :
    find? (key x) (putEach key entries added) = some x := by
  obtain ⟨s, text⟩ := texts x member
  rw [text, find?_putEach_text texts]
  cases found : added.reverse.find? fun y => key y == .text s with
  | none =>
    have other := List.find?_eq_none.mp found x (List.mem_reverse.mpr member)
    exact absurd ((Value.beq_text _ _).mpr text) other
  | some y =>
    have under : (key y == .text s) = true := by simpa using List.find?_some found
    have same := (Value.beq_text _ _).mp under
    have among := List.mem_reverse.mp (List.mem_of_find?_eq_some found)
    rw [only y among (same.trans text.symm)]
    rfl

end Keyed

theorem Value.eq_map_text {items : List Value} {names : List String}
    (h : Value.texts items = .ok names) : items = names.map .text := by
  have texts : Value.texts? items = some names := by
    unfold Value.texts at h
    split at h
    · next found => rw [found, Except.ok.inj h]
    · cases h
  clear h
  induction items generalizing names with
  | nil => cases texts; rfl
  | cons v rest ih =>
    cases v with
    | text s =>
      obtain ⟨others, found, rfl⟩ := Option.map_eq_some_iff.mp texts
      rw [ih found, List.map_cons]
    | _ => cases texts

namespace Table

/-! ## Declarations -/

structure Declaration where
  kind : Index.Kind
  columns : Value

def Declaration.index (table : Value) (d : Declaration) : Except Fault Index :=
  Index.build table d.kind d.columns .null

def Declaration.step (d : Declaration) : Step :=
  { call := .index d.kind d.columns .null }

/-- The table after declarations; a refused one is passed over. -/
def declareAll (t : Table) (ds : List Declaration) : Table :=
  t.afterAll (ds.map Declaration.step)

def declared (table : Value) (ds : List Declaration) : List Index :=
  ds.flatMap fun d => (d.index table).toOption.toList

variable {table : Value}

theorem mem_declared {ds : List Declaration} {i : Index} :
    i ∈ declared table ds ↔ ∃ d ∈ ds, d.index table = .ok i := by
  simp only [declared, List.mem_flatMap, mem_toOption]

theorem Declaration.index_ok {d : Declaration} {i : Index} (h : d.index table = .ok i) :
    i.table = table ∧ i.kind = d.kind ∧ Index.columnList d.columns = .ok i.columns ∧
      ∃ names : List String, i.columns = names.map .text ∧
        i.name = .text (Index.nameFor table names d.kind) := by
  obtain ⟨columns, listed, h⟩ := ok_of_bind_ok h
  obtain ⟨name, named, h⟩ := ok_of_bind_ok h
  obtain rfl := Except.ok.inj h
  obtain ⟨names, texts, rfl⟩ := ok_of_map_ok named
  exact ⟨rfl, rfl, listed, names, Value.eq_map_text texts, rfl⟩

theorem declared_name {ds : List Declaration} :
    ∀ i ∈ declared table ds, ∃ s, i.name = .text s := by
  intro i member
  obtain ⟨d, -, made⟩ := mem_declared.mp member
  obtain ⟨-, -, -, names, -, name⟩ := Declaration.index_ok made
  exact ⟨_, name⟩

theorem declared_columns {ds : List Declaration} :
    ∀ i ∈ declared table ds, ∃ names : List String, i.columns = names.map .text := by
  intro i member
  obtain ⟨d, -, made⟩ := mem_declared.mp member
  obtain ⟨-, -, -, names, columns, -⟩ := Declaration.index_ok made
  exact ⟨names, columns⟩

theorem Declaration.isPlain (d : Declaration) : d.step.IsPlain := by
  refine ⟨by simp [step], by simp [step, Call.defines], by simp [step, Call.defines],
    by simp [step, Call.defines], fun table i member => ?_, by simp [step]⟩
  obtain ⟨-, -, -, names, columns, -⟩ := index_ok (d := d) (mem_toOption.mp member)
  exact ⟨names, columns⟩

theorem indexes_declareAll (t : Table) (ds : List Declaration) :
    (t.declareAll ds).indexes = Keyed.putEach Index.name t.indexes (declared t.name ds) := by
  have named : ∀ step ∈ ds.map Declaration.step, step.call.NamesTexts := by
    intro step member
    obtain ⟨d, -, rfl⟩ := List.mem_map.mp member
    exact d.isPlain.named
  rw [declareAll, afterAll_indexes named, List.flatMap_map]
  rfl

/-! ## Their statements -/

structure Indexed (t : Table) : Prop where
  filed : Keyed.Filed Index.name t.indexes
  columns : ∀ i ∈ t.indexList, ∃ names : List String, i.columns = names.map .text

theorem Indexed.declareAll {t : Table} (h : t.Indexed) (ds : List Declaration) :
    (t.declareAll ds).Indexed := by
  constructor
  · rw [indexes_declareAll]
    exact h.filed.putEach declared_name
  · intro i member
    obtain ⟨entry, there, rfl⟩ := List.mem_map.mp member
    rw [indexes_declareAll] at there
    rcases Keyed.mem_putEach there with old | new
    · exact h.columns _ (List.mem_map_of_mem old)
    · exact declared_columns _ new

/-- The table has the index, and its statement is among those that end the scripts which create
and alter the table. -/
structure Creates (t : Table) (i : Index) : Prop where
  listed : i ∈ t.indexList
  written : ∃ statements s, t.indexStatements = .ok statements ∧ i.definition = .ok s ∧
    s ++ ";" ∈ statements ∧
    (∀ d create, t.createStatement d = .ok create →
      t.createScript d = .ok (script (create :: statements))) ∧
    ∀ d changes, t.alterStatements d = .ok changes →
      t.alterScript d = .ok (script (changes ++ statements))

theorem Indexed.creates_iff {t : Table} (h : t.Indexed) (i : Index) :
    t.Creates i ↔ i ∈ t.indexList := by
  refine ⟨fun created => created.listed, fun listed => ⟨listed, ?_⟩⟩
  obtain ⟨definitions, written⟩ :=
    mapM_done fun i member => definition_text (h.columns i member)
  obtain ⟨same, all⟩ := indexStatements_eq written
  have own : i.definition ∈ definitions.map Except.ok := by
    rw [← same]
    exact List.mem_map_of_mem listed
  obtain ⟨s, member, done⟩ := List.mem_map.mp own
  refine ⟨_, s, all, done.symm, List.mem_map_of_mem member, fun d create made => ?_,
    fun d changes made => ?_⟩
  · rw [createScript, made, all]
    rfl
  · rw [alterScript, made, all]
    rfl

theorem Indexed.mem_declareAll {t : Table} (h : t.Indexed) {ds : List Declaration} {i : Index}
    (member : i ∈ declared t.name ds) :
    i ∈ (t.declareAll ds).indexList ↔
      Keyed.find? i.name (t.declareAll ds).indexes = some i :=
  ((h.declareAll ds).filed.find?_iff (declared_name i member)).symm

/-- Every declared index is created if and only if no two of them have one name. -/
theorem declared_created_iff (t : Table) (indexed : t.Indexed) (ds : List Declaration) :
    (∀ i ∈ declared t.name ds, (t.declareAll ds).Creates i) ↔
      ∀ i ∈ declared t.name ds, ∀ j ∈ declared t.name ds, i.name = j.name → i = j := by
  have found (i : Index) (member : i ∈ declared t.name ds) :
      (t.declareAll ds).Creates i ↔
        Keyed.find? i.name (t.declareAll ds).indexes = some i :=
    ((indexed.declareAll ds).creates_iff i).trans (indexed.mem_declareAll member)
  constructor
  · intro created i hi j hj same
    have first := (found i hi).mp (created i hi)
    have second := (found j hj).mp (created j hj)
    rw [same, second] at first
    exact (Option.some.inj first).symm
  · intro apart i hi
    rw [found i hi, indexes_declareAll]
    exact Keyed.find?_putEach _ declared_name hi fun j hj same => apart j hj i hi same

def people : Table where
  name := .text "people"

/-- Two lists of columns with one name between them. -/
def clashing : List Declaration :=
  [⟨.normal, .list [.text "first", .text "name"]⟩, ⟨.normal, .text "first_name"⟩]

theorem people_index_lost :
    people.Indexed ∧
      ¬ ∀ i ∈ declared people.name clashing, (people.declareAll clashing).Creates i := by
  have indexed : people.Indexed :=
    ⟨⟨by simp [people], by simp [people]⟩, by simp [people, indexList]⟩
  refine ⟨indexed, fun created => ?_⟩
  have apart := (declared_created_iff people indexed clashing).mp created
  let named (columns : List Value) : Index :=
    { columns, table := .text "people", kind := .normal, name := .text "people_first_name_normal" }
  have both : declared people.name clashing =
      [named [.text "first", .text "name"], named [.text "first_name"]] := by rfl
  rw [both] at apart
  have same := apart (named [.text "first", .text "name"]) (by simp)
    (named [.text "first_name"]) (by simp) rfl
  simp [named] at same

end Table

end FluentSql
