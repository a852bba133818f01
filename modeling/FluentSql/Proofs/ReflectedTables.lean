import FluentSql.Proofs.TableRuns
import FluentSql.Schema.Catalog

/-!
# Tables of a database

A table as the database describes it has unchanged columns under their names.
From there the history of a name gives the lifecycle state of its column, and
whatever else a column is comes from the steps that do more than change or drop
a column. Two runs that agree in those steps, and in what is done to each column
after it was last defined, come to the same table.
-/

set_option autoImplicit false

namespace FluentSql.Table

variable {names : List String} {events : List (String × Event)}

/-- A table as a database describes it: its columns are under their names, and unchanged. -/
structure Reflected (t : Table) (names : List String) : Prop where
  keys : t.columnNames = names.map .text
  distinct : names.Nodup
  named : ∀ entry ∈ t.columns, entry.2.name = entry.1
  typed : ∀ entry ∈ t.columns, ∃ type, entry.2.type = .text type
  unchanged : ∀ entry ∈ t.columns, entry.2.state = .unchanged
  bare : t.indexes = []

theorem reflected_empty (name : Value) : Reflected { name := name } [] :=
  ⟨rfl, List.nodup_nil, by simp, by simp, by simp, rfl⟩

theorem Reflected.lined {t : Table} (h : t.Reflected names) :
    Keyed.Lined Column.name names t.columns := by
  refine ⟨?_, h.named⟩
  rw [Event.eraseDups_of_nodup h.distinct]
  exact h.keys

theorem Reflected.tracks {t : Table} (h : t.Reflected names) : Tracks names [] t.columns := by
  refine ⟨?_, h.named, h.typed, fun name c lookup => ?_⟩
  · rw [Event.entered_nil h.distinct]
    exact h.keys
  · obtain ⟨key, member, -⟩ := Keyed.mem_of_find? lookup
    exact h.unchanged _ member

theorem Reflected.tracks_afterAll {t : Table} (h : t.Reflected names) {steps : List Step}
    (plain : ∀ step ∈ steps, step.IsPlain) :
    Tracks names (eventsOf steps) (t.afterAll steps).columns :=
  Table.tracks_afterAll h.tracks plain

theorem Reflected.column_unknown {t : Table} (h : t.Reflected names) {steps : List Step}
    (plain : ∀ step ∈ steps, step.IsPlain) (name : String) :
    (t.afterAll steps).column (.text name) =
        .error (.schema (.unknownColumn name t.name.plain)) ↔
      name ∉ Event.entered names (eventsOf steps) := by
  have texts : ∀ step ∈ steps, step.call.NamesTexts := fun step ran => (plain step ran).named
  rw [← (h.tracks_afterAll plain).find?_isSome, ← afterAll_name texts]
  unfold column
  cases Keyed.find? (.text name) (t.afterAll steps).columns with
  | none => simp [Value.isKey, Value.plain]
  | some c => simp [Value.isKey]

theorem Reflected.putColumn {t : Table} (h : t.Reflected names) {c : Column}
    (named : ∃ s, c.name = .text s) (typed : ∃ type, c.type = .text type)
    (unchanged : c.state = .unchanged) : ∃ names, (t.putColumn c).Reflected names := by
  obtain ⟨name, named⟩ := named
  have entries : ∀ entry ∈ (t.putColumn c).columns, entry ∈ t.columns ∨
      entry.2 = c ∧ entry.1 = .text name := by
    intro entry member
    refine (Keyed.mem_put member).imp_right fun ⟨same, key⟩ => ⟨same, ?_⟩
    rw [named] at key
    exact key.elim id (Value.beq_text _ _).mp
  have keys : ∃ names : List String,
      (t.putColumn c).columnNames = names.map .text ∧ names.Nodup := by
    rw [columnNames_putColumn, named, h.keys]
    by_cases old : name ∈ names
    · refine ⟨names, if_pos ?_, h.distinct⟩
      simpa [Value.text_beq_text] using old
    · refine ⟨names ++ [name], ?_, ?_⟩
      · rw [if_neg (by simpa [Value.text_beq_text] using old), List.map_append]
        rfl
      · simpa using List.Nodup.concat old h.distinct
  obtain ⟨names, keys, distinct⟩ := keys
  refine ⟨names, keys, distinct, ?_, ?_, ?_, h.bare⟩
  · intro entry member
    rcases entries entry member with old | ⟨same, key⟩
    · exact h.named entry old
    · rw [same, key, named]
  · intro entry member
    rcases entries entry member with old | ⟨same, -⟩
    · exact h.typed entry old
    · rwa [same]
  · intro entry member
    rcases entries entry member with old | ⟨same, -⟩
    · exact h.unchanged entry old
    · rwa [same]

theorem Reflected.addAll {t t' : Table} (h : t.Reflected names) {columns : List Column}
    (named : ∀ c ∈ columns, ∃ s, c.name = .text s)
    (typed : ∀ c ∈ columns, ∃ type, c.type = .text type)
    (unchanged : ∀ c ∈ columns, c.state = .unchanged)
    (done : columns.foldlM addColumn t = .ok t') : ∃ names, t'.Reflected names := by
  induction columns generalizing t names with
  | nil =>
    obtain rfl := Except.ok.inj done
    exact ⟨names, h⟩
  | cons c columns ih =>
    rw [List.forall_mem_cons] at named typed unchanged
    rw [List.foldlM_cons, addColumn_text named.1] at done
    obtain ⟨names, first⟩ := h.putColumn named.1 typed.1 unchanged.1
    exact ih first named.2 typed.2 unchanged.2 done

theorem required_ok {key : String} {given : Option Value} {v : Value}
    (h : Description.required key given = .ok v) : given = some v := by
  cases given with
  | none => cases h
  | some w => rw [Except.ok.inj h]

theorem description_column {d : Description} {c : Column} (h : d.column = .ok c) :
    d.name = some c.name ∧ (∃ type, c.type = .text type) ∧ c.state = .unchanged := by
  obtain ⟨type, -, h⟩ := ok_of_bind_ok h
  dsimp only at h
  split at h
  · cases h
  · obtain ⟨name, required, h⟩ := ok_of_bind_ok h
    obtain ⟨⟨type, family⟩, -, h⟩ := ok_of_bind_ok h
    obtain rfl := Except.ok.inj h
    exact ⟨required_ok required, ⟨type, rfl⟩, rfl⟩

theorem catalogColumn_name {column : CatalogColumn} {d : Description}
    (h : column.description = .ok d) : d.name = column.name := by
  obtain ⟨name, required, h⟩ := ok_of_bind_ok h
  rw [required_ok required]
  dsimp only at h
  split at h
  all_goals
    obtain ⟨type, -, h⟩ := ok_of_bind_ok h
    obtain rfl := Except.ok.inj h
    rfl

theorem description_names {c : Catalog} {s s' : Session} {name : Value}
    {descriptions : List Description}
    (named : ∀ entry ∈ c.tables, ∀ column ∈ entry.2, ∃ text, column.name = some (.text text))
    (h : c.describe s name = (.ok descriptions, s')) :
    ∀ d ∈ descriptions, ∃ text, d.name = some (.text text) := by
  unfold Catalog.describe at h
  split at h
  · cases (Prod.mk.inj h).1
  · split at h
    · cases (Prod.mk.inj h).1
    · cases (Prod.mk.inj h).1
    · cases (Prod.mk.inj h).1
    · next columns _ looked =>
      intro d member
      obtain ⟨column, among, done⟩ := mem_of_mapM_ok (Prod.mk.inj h).1 d member
      have found : Keyed.find? name c.tables = some columns := by
        unfold Catalog.columns? at looked
        split at looked
        · exact Except.ok.inj looked
        · cases looked
      obtain ⟨key, listed, -⟩ := Keyed.mem_of_find? found
      obtain ⟨text, same⟩ := named _ listed column among
      exact ⟨text, (catalogColumn_name done).trans same⟩

theorem load_reflected {c : Catalog} {s s' : Session} {name : Value} {t : Table}
    (named : ∀ entry ∈ c.tables, ∀ column ∈ entry.2, ∃ text, column.name = some (.text text))
    (h : c.load s name = (.ok t, s')) : ∃ names, t.Reflected names := by
  unfold Catalog.load andThen at h
  cases described : c.describe s name with
  | mk answer after =>
    rw [described] at h
    cases answer with
    | error fault => cases (Prod.mk.inj h).1
    | ok descriptions =>
      dsimp only at h
      cases read : descriptions.mapM Description.column with
      | error fault => rw [read] at h; cases (Prod.mk.inj h).1
      | ok columns =>
        rw [read] at h
        have built : columns.foldlM addColumn { name := name } = .ok t := (Prod.mk.inj h).1
        have names := description_names named described
        refine (reflected_empty name).addAll ?_ ?_ ?_ built
        all_goals
          intro column member
          obtain ⟨d, among, done⟩ := mem_of_mapM_ok read column member
          obtain ⟨same, typed, unchanged⟩ := description_column done
        · obtain ⟨text, given⟩ := names d among
          exact ⟨text, Option.some.inj (same.symm.trans given)⟩
        · exact typed
        · exact unchanged

/-! ## Runs that differ in their changes and drops -/

def Step.isLifecycle (step : Step) : Bool :=
  match step.call, step.rest with
  | .change _, [] | .drop _, [] => true
  | _, _ => false

theorem Step.of_isLifecycle {step : Step} (h : step.isLifecycle = true) :
    ∃ name, step = { call := .change name } ∨ step = { call := .drop name } := by
  obtain ⟨call, rest⟩ := step
  unfold isLifecycle at h
  split at h
  · next name called none => exact ⟨name, .inl (by rw [Step.mk.injEq]; exact ⟨called, none⟩)⟩
  · next name called none => exact ⟨name, .inr (by rw [Step.mk.injEq]; exact ⟨called, none⟩)⟩
  · cases h

def others (steps : List Step) : List Step :=
  steps.filter fun step => !step.isLifecycle

theorem flatMap_others {β : Type} {f : Step → List β}
    (none : ∀ name, f { call := .change name } = [] ∧ f { call := .drop name } = [])
    (steps : List Step) : (others steps).flatMap f = steps.flatMap f := by
  induction steps with
  | nil => rfl
  | cons step rest ih =>
    rw [others] at ih ⊢
    cases lifecycle : step.isLifecycle with
    | true =>
      have nothing : f step = [] := by
        obtain ⟨name, rfl | rfl⟩ := Step.of_isLifecycle lifecycle
        · exact (none name).1
        · exact (none name).2
      rw [List.filter_cons_of_neg (by simp [lifecycle]), ih, List.flatMap_cons, nothing,
        List.nil_append]
    | false => rw [List.filter_cons_of_pos (by simp [lifecycle]), List.flatMap_cons, ih,
        List.flatMap_cons]

def blanks (t : Table) : List (Value × Column) :=
  Keyed.mapValues Column.blank t.columns

theorem blanks_putAll (t : Table) (columns : List Column) (indexes : List Index) :
    (t.putAll columns indexes).blanks =
      Keyed.putEach Column.name t.blanks (columns.map Column.blank) := by
  have same (c : Column) : c.blank.name = c.name := rfl
  exact Keyed.mapValues_putEach same t.columns columns

theorem Step.follow_blank {step : Step} {c d : Column} (same : c.blank = d.blank) :
    (step.follow c).blank = (step.follow d).blank := by
  unfold Step.follow
  split
  · exact same
  · exact same
  · exact Column.afterCalls_blank same _

theorem Step.IsPlain.puts_mark {step : Step} (plain : step.IsPlain) {given : Value}
    (mark : step.call = .change given ∨ step.call = .drop given) :
    ∃ (name : String) (touch : Column → Column),
      (∀ t, step.puts t = (Keyed.find? (.text name) t.columns).toList.map touch) ∧
      (∀ c d, c.blank = d.blank → (touch c).blank = (touch d).blank) ∧
      (step.rest = [] → ∀ c, (touch c).blank = c.blank) := by
  obtain ⟨name, rfl⟩ := plain.target given mark
  rcases mark with called | called
  · refine ⟨name, fun c => step.follow c.changed, fun t => ?_, fun c d same => ?_,
      fun alone c => ?_⟩
    · rw [← column_text, Step.puts, called]
    · exact Step.follow_blank ((c.changed_blank.trans same).trans d.changed_blank.symm)
    · simp only [Step.follow, called, alone]
      exact c.changed_blank
  · refine ⟨name, Column.deleted, fun t => ?_, fun c d same => same, fun _ c => rfl⟩
    rw [← column_text, Step.puts, called]

theorem puts_blank {t u : Table} {step : Step} (same : t.blanks = u.blanks)
    (plain : step.IsPlain) :
    (step.puts t).map Column.blank = (step.puts u).map Column.blank := by
  have marked {given : Value} (mark : step.call = .change given ∨ step.call = .drop given) :
      (step.puts t).map Column.blank = (step.puts u).map Column.blank := by
    obtain ⟨name, touch, puts, respects, -⟩ := plain.puts_mark mark
    have found : (Keyed.find? (.text name) t.columns).map Column.blank =
        (Keyed.find? (.text name) u.columns).map Column.blank := by
      rw [← Keyed.find?_mapValues, ← Keyed.find?_mapValues]
      exact congrArg (Keyed.find? (Value.text name)) same
    rw [puts, puts]
    revert found
    cases Keyed.find? (.text name) t.columns <;> cases Keyed.find? (.text name) u.columns <;>
      intro found
    · rfl
    · cases found
    · cases found
    · exact congrArg (fun c => [c]) (respects _ _ (Option.some.inj found))
  cases called : step.call with
  | change given => exact marked (.inl called)
  | drop given => exact marked (.inr called)
  | _ => simp only [Step.puts, called]

theorem blanks_after {t u : Table} {step : Step} (same : t.blanks = u.blanks)
    (plain : step.IsPlain) : (t.after step).blanks = (u.after step).blanks := by
  rw [after_eq plain.named, after_eq plain.named, blanks_putAll, blanks_putAll,
    puts_blank same plain, same]

theorem blanks_after_lifecycle {t : Table} {step : Step} (h : Tracks names events t.columns)
    (plain : step.IsPlain) (lifecycle : step.isLifecycle = true) :
    (t.after step).blanks = t.blanks := by
  obtain ⟨given, mark, alone⟩ : ∃ given,
      (step.call = .change given ∨ step.call = .drop given) ∧ step.rest = [] := by
    obtain ⟨given, rfl | rfl⟩ := Step.of_isLifecycle lifecycle
    · exact ⟨given, .inl rfl, rfl⟩
    · exact ⟨given, .inr rfl, rfl⟩
  obtain ⟨name, touch, puts, -, back⟩ := plain.puts_mark mark
  rw [after_eq plain.named, blanks_putAll, puts]
  cases found : Keyed.find? (.text name) t.columns with
  | none => rfl
  | some c =>
    apply Keyed.put_found
    rw [back alone, show c.blank.name = c.name from rfl, (h.found found).1, blanks,
      Keyed.find?_mapValues, found]
    rfl

theorem blanks_afterAll {t : Table} {steps : List Step} (h : Tracks names events t.columns)
    (plain : ∀ step ∈ steps, step.IsPlain) :
    (t.afterAll steps).blanks = (t.afterAll (others steps)).blanks := by
  induction steps using List.reverseRecOn with
  | nil => rfl
  | append_singleton steps step ih =>
    obtain ⟨before, last⟩ := List.forall_mem_append.mp plain
    have last := last step List.mem_cons_self
    rw [afterAll_concat, others, List.filter_append]
    cases lifecycle : step.isLifecycle with
    | true =>
      rw [blanks_after_lifecycle (tracks_afterAll h before) last lifecycle, ih before]
      simp [others, lifecycle]
    | false =>
      rw [List.filter_cons_of_pos (by simp [lifecycle]), List.filter_nil, afterAll_concat]
      exact blanks_after (ih before) last

theorem Tracks.restored {t : Table} (h : Tracks names events t.columns) :
    t.columns = t.blanks.map fun entry =>
      (entry.1, { entry.2 with state := Event.fate (Event.ofName events entry.1.plain) }) := by
  rw [blanks, Keyed.mapValues, List.map_map]
  refine (List.map_id _).symm.trans (List.map_congr_left fun entry member => ?_)
  obtain ⟨name, -, text, state⟩ := h.fate_of_mem member
  obtain ⟨key, c⟩ := entry
  obtain rfl : key = .text name := text
  obtain ⟨_, _, _, _, _, _, _⟩ := c
  obtain rfl := state
  rfl

theorem definitions_others (steps : List Step) :
    (eventsOf (others steps)).filter (fun e => e.2 = .defined) =
      (eventsOf steps).filter fun e => e.2 = .defined := by
  rw [eventsOf, eventsOf, List.filter_flatMap, List.filter_flatMap]
  exact flatMap_others (fun name => ⟨rfl, rfl⟩) steps

theorem defined_others (name : String) (steps : List Step) :
    .defined ∈ history (others steps) name ↔ .defined ∈ history steps name := by
  rw [history, Event.defined_mem_ofName, definitions_others, ← Event.defined_mem_ofName]
  rfl

/-- Runs that differ in their changes and drops come to the same table, if the same is done to
each column after it was last defined. -/
theorem afterAll_alike {t : Table} {names : List String} (reflected : t.Reflected names)
    {steps steps' : List Step} (plain : ∀ step ∈ steps, step.IsPlain)
    (plain' : ∀ step ∈ steps', step.IsPlain) (same : others steps = others steps')
    (marks : ∀ name ∈ Event.entered names (eventsOf steps), ∀ e,
      e ∈ Event.sinceDefined (history steps name) ↔
        e ∈ Event.sinceDefined (history steps' name)) :
    t.afterAll steps = t.afterAll steps' := by
  have tracked := reflected.tracks_afterAll plain
  have tracked' := reflected.tracks_afterAll plain'
  have texts : ∀ step ∈ steps, step.call.NamesTexts := fun step ran => (plain step ran).named
  have texts' : ∀ step ∈ steps', step.call.NamesTexts := fun step ran => (plain' step ran).named
  have name : (t.afterAll steps).name = (t.afterAll steps').name := by
    rw [afterAll_name texts, afterAll_name texts']
  have indexes : (t.afterAll steps).indexes = (t.afterAll steps').indexes := by
    have none (name : Value) : Call.declares t.name (.change name) = [] ∧
      Call.declares t.name (.drop name) = [] := ⟨rfl, rfl⟩
    rw [afterAll_indexes texts, afterAll_indexes texts',
      ← flatMap_others (f := fun step => step.call.declares t.name) none, same,
      flatMap_others (f := fun step => step.call.declares t.name) none]
  have blanks : (t.afterAll steps).blanks = (t.afterAll steps').blanks := by
    rw [blanks_afterAll reflected.tracks plain, same, ← blanks_afterAll reflected.tracks plain']
  have fates : ∀ name ∈ Event.entered names (eventsOf steps),
      Event.fate (history steps name) = Event.fate (history steps' name) := by
    intro name entered
    have defined := (defined_others name steps).symm.trans (same ▸ defined_others name steps')
    simp only [Event.fate, marks name entered, defined]
  have columns : (t.afterAll steps).columns = (t.afterAll steps').columns := by
    rw [tracked.restored, tracked'.restored, ← blanks]
    apply List.map_congr_left
    intro entry member
    have key : entry.1 ∈ (Event.entered names (eventsOf steps)).map Value.text := by
      rw [← tracked.keys, ← Keyed.keys_mapValues Column.blank]
      exact List.mem_map_of_mem member
    obtain ⟨name, entered, text⟩ := List.mem_map.mp key
    rw [← text]
    exact congrArg (fun state => (Value.text name, { entry.2 with state := state }))
      (fates name entered)
  have parts (u : Table) : u = ⟨u.name, u.columns, u.indexes⟩ := rfl
  rw [parts (t.afterAll steps), name, columns, indexes]

theorem marks_alike {before marks marks' later : List Step}
    (lifecycle : ∀ step ∈ marks, step.isLifecycle = true)
    (same : ∀ step, step ∈ marks ↔ step ∈ marks') (name : String) (e : Event) :
    e ∈ Event.sinceDefined (history (before ++ marks ++ later) name) ↔
      e ∈ Event.sinceDefined (history (before ++ marks' ++ later) name) := by
  have alike (e : Event) : e ∈ history marks name ↔ e ∈ history marks' name := by
    simp only [mem_history, same]
  have old : .defined ∉ history marks name := by
    rintro new
    obtain ⟨step, ran, defined⟩ := mem_history.mp new
    obtain ⟨given, rfl | rfl⟩ := Step.of_isLifecycle (lifecycle step ran) <;>
      simp [Call.events] at defined
  have old' : .defined ∉ history marks' name := fun new => old ((alike _).mpr new)
  simp only [history_append, Event.sinceDefined_append, old, old', if_false]
  split
  · rfl
  · simp [alike]

theorem others_alike {before marks marks' later : List Step}
    (lifecycle : ∀ step ∈ marks, step.isLifecycle = true)
    (same : ∀ step, step ∈ marks ↔ step ∈ marks') :
    others (before ++ marks ++ later) = others (before ++ marks' ++ later) := by
  have none : others marks = [] := by simpa [others] using lifecycle
  have none' : others marks' = [] := by simpa [others, ← same] using lifecycle
  simp only [others, List.filter_append] at none none' ⊢
  rw [none, none']

end FluentSql.Table
