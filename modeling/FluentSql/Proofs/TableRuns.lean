import FluentSql.Proofs.ColumnHistory
import FluentSql.Proofs.Results

/-!
# Runs of steps on a table

A step puts columns into its table and declares indexes; `after_eq` says which.
From it a run is followed step by step: the columns keep track of the events on
their names. A refused step is passed over; what it did before its refusal
stays.
-/

set_option autoImplicit false

namespace FluentSql

/-! ## Calls on a column -/

namespace Column

def Call.isLifecycle : Call → Bool
  | .change | .delete => true
  | _ => false

def blank (c : Column) : Column :=
  { c with state := .unchanged }

theorem changed_name (c : Column) : c.changed.name = c.name := by
  unfold changed
  split <;> rfl

theorem changed_type (c : Column) : c.changed.type = c.type := by
  unfold changed
  split <;> rfl

theorem changed_state (c : Column) :
    c.changed.state = if c.state = .deleted then .deleted else .modified := by
  unfold changed
  split <;> simp [*]

theorem changed_blank (c : Column) : c.changed.blank = c.blank := by
  unfold changed
  split <;> rfl

theorem perform_keeps {c c' : Column} {call : Call} (h : c.perform call = .ok c') :
    c'.name = c.name ∧ c'.type = c.type ∧ (call.isLifecycle = false → c'.state = c.state) := by
  cases call with
  | nullable flag =>
    obtain rfl := Except.ok.inj h
    exact ⟨rfl, rfl, fun _ => rfl⟩
  | default value isExpression =>
    obtain rfl := Except.ok.inj h
    exact ⟨rfl, rfl, fun _ => rfl⟩
  | change =>
    obtain rfl := Except.ok.inj h
    exact ⟨changed_name c, changed_type c, fun quiet => by cases quiet⟩
  | delete =>
    obtain rfl := Except.ok.inj h
    exact ⟨rfl, rfl, fun quiet => by cases quiet⟩
  | current expression =>
    obtain ⟨family, -, rfl⟩ := ok_of_map_ok h
    exact ⟨rfl, rfl, fun _ => rfl⟩
  | misfit call =>
    rw [perform] at h
    cases r : c.perform call <;> rw [r] at h <;> cases h
  | refused fault => cases h
  | setLength _ | unsigned _ | autoIncrement _ | currentOnUpdate | shown =>
    obtain ⟨family, -, rfl⟩ := ok_of_map_ok h
    exact ⟨rfl, rfl, fun _ => rfl⟩

theorem perform_blank (c : Column) (call : Call) :
    (c.blank.perform call).map blank = (c.perform call).map blank := by
  induction call with
  | nullable flag => rfl
  | default value isExpression => rfl
  | change => exact congrArg Except.ok ((changed_blank _).trans (changed_blank c).symm)
  | delete => rfl
  | misfit call ih =>
    rw [perform, perform]
    cases one : c.blank.perform call <;> cases other : c.perform call <;> rw [one, other] at ih
    · exact ih
    · cases ih
    · cases ih
    · rfl
  | refused fault => rfl
  | current expression =>
    simp only [perform, blank]
    cases c.family.perform (.current expression) <;> rfl
  | setLength _ | unsigned _ | autoIncrement _ | currentOnUpdate | shown =>
    simp only [perform, blank]
    cases c.family.perform _ <;> rfl

/-- The column after the calls up to the first one that is refused. -/
def afterCalls (c : Column) : List Call → Column
  | [] => c
  | call :: rest =>
    match c.perform call with
    | .ok c => c.afterCalls rest
    | .error _ => c

theorem afterCalls_keeps (c : Column) (calls : List Call) :
    (c.afterCalls calls).name = c.name ∧ (c.afterCalls calls).type = c.type ∧
      ((∀ call ∈ calls, call.isLifecycle = false) → (c.afterCalls calls).state = c.state) := by
  induction calls generalizing c with
  | nil => exact ⟨rfl, rfl, fun _ => rfl⟩
  | cons call rest ih =>
    rw [afterCalls]
    cases done : c.perform call with
    | error fault => exact ⟨rfl, rfl, fun _ => rfl⟩
    | ok next =>
      obtain ⟨name, type, state⟩ := perform_keeps done
      obtain ⟨names, types, states⟩ := ih next
      refine ⟨names.trans name, types.trans type, fun quiet => ?_⟩
      rw [List.forall_mem_cons] at quiet
      exact (states quiet.2).trans (state quiet.1)

theorem afterCalls_blank {c d : Column} (same : c.blank = d.blank) (calls : List Call) :
    (c.afterCalls calls).blank = (d.afterCalls calls).blank := by
  induction calls generalizing c d with
  | nil => exact same
  | cons call rest ih =>
    have alike : (c.perform call).map blank = (d.perform call).map blank := by
      rw [← perform_blank c, same, perform_blank]
    rw [afterCalls, afterCalls]
    cases one : c.perform call <;> cases other : d.perform call <;> rw [one, other] at alike
    · exact same
    · cases alike
    · cases alike
    · exact ih (Except.ok.inj alike)

end Column

namespace Table

/-! ## Calls that follow -/

theorem Answer.perform_column (c : Column) (link : Link) :
    (Answer.column c).perform link = (c.perform link.onColumn).map .column ∨
      (∃ fault, c.perform link.onColumn = .error fault) ∧
        ∃ v, (Answer.column c).perform link = .ok (.value v) := by
  unfold Answer.perform
  cases link.onColumn with
  | shown =>
    refine .inr ⟨⟨.noOperation, ?_⟩, _, rfl⟩
    unfold Column.perform
    cases c.family <;> rfl
  | _ => exact .inl rfl

theorem performOn_value (before t : Table) (v : Value) (links : List Link) :
    (before.performOn t (.value v) links).2 = t := by
  induction links generalizing v with
  | nil => rfl
  | cons link rest ih =>
    unfold performOn Answer.perform
    cases link.onColumn with
    | shown => exact ih _
    | _ => rfl

theorem performOn_index (before t : Table) (i : Index) (links : List Link) :
    (before.performOn t (.index i) links).2 = t := by
  cases links with
  | nil => rfl
  | cons link rest =>
    unfold performOn Answer.perform
    cases link.onColumn with
    | shown =>
      dsimp only [Answer.shown]
      cases i.shown with
      | error fault => rfl
      | ok s => exact performOn_value before t _ rest
    | _ => rfl

theorem performOn_column (before t : Table) (c : Column) (links : List Link)
    (there : t.columns = (before.putColumn c).columns) :
    (before.performOn t (.column c) links).2 =
      { t with
        columns := (before.putColumn (c.afterCalls (links.map Link.onColumn))).columns } := by
  induction links generalizing t c with
  | nil =>
    change t = _
    rw [List.map_nil, Column.afterCalls, ← there]
  | cons link rest ih =>
    rw [performOn, List.map_cons, Column.afterCalls]
    rcases Answer.perform_column c link with same | ⟨⟨fault, refused⟩, v, shown⟩
    · rw [same]
      cases done : c.perform link.onColumn with
      | error fault =>
        change t = _
        rw [← there]
      | ok next => exact ih _ next rfl
    · rw [shown, refused]
      refine (performOn_value before t v rest).trans ?_
      rw [← there]

/-! ## What a step does -/

def idColumn (name type : Value) : Except Fault Column :=
  (type.upper.bind (idDraft name)).bind Column.Draft.column

namespace Call

def defines : Call → List Column
  | id column type =>
    (idColumn (column.getD (.text "id")) (type.getD (.text "INT"))).toOption.toList
  | add draft => draft.column.toOption.toList
  | timestamps => [createdAt, updatedAt]
  | softDeletes => [deletedAt]
  | addColumn c => [c]
  | _ => []

def declares (table : Value) : Call → List Index
  | id column type =>
    let name := column.getD (.text "id")
    ((idColumn name (type.getD (.text "INT"))).bind fun _ =>
      Index.build table .primary name .null).toOption.toList
  | index kind columns name => (Index.build table kind columns name).toOption.toList
  | addIndex i => [i]
  | _ => []

def events : Call → List (String × Event)
  | change name => [(name.plain, .changed)]
  | drop name => [(name.plain, .dropped)]
  | call => call.defines.map fun c => (c.name.plain, .defined)

end Call

namespace Step

/-- A column after the calls that follow in a step. Those after a call that answers nothing find
no column. -/
def follow (step : Step) (c : Column) : Column :=
  match step.call with
  | .timestamps | .softDeletes => c
  | _ => c.afterCalls (step.rest.map Link.onColumn)

/-- The columns that a step puts into a table: those that it defines, or the one that it changes
or drops. -/
def puts (t : Table) (step : Step) : List Column :=
  match step.call with
  | .change name => (t.column name).toOption.toList.map fun c => step.follow c.changed
  | .drop name => (t.column name).toOption.toList.map Column.deleted
  | call => call.defines.map step.follow

/-- Names and types are texts, a defined column is new, and the calls that follow leave the
lifecycle state alone. -/
structure IsPlain (step : Step) : Prop where
  target : ∀ name, step.call = .change name ∨ step.call = .drop name → ∃ s, name = .text s
  named : ∀ c ∈ step.call.defines, ∃ s, c.name = .text s
  typed : ∀ c ∈ step.call.defines, ∃ type, c.type = .text type
  new : ∀ c ∈ step.call.defines, c.state = .new
  indexed : ∀ table, ∀ i ∈ step.call.declares table, ∃ names : List String,
    i.columns = names.map .text
  quiet : ∀ link ∈ step.rest, link.onColumn.isLifecycle = false

end Step

def eventsOf (steps : List Step) : List (String × Event) :=
  steps.flatMap fun step => step.call.events

def history (steps : List Step) (name : String) : List Event :=
  Event.ofName (eventsOf steps) name

theorem history_append (before later : List Step) (name : String) :
    history (before ++ later) name = history before name ++ history later name := by
  rw [history, eventsOf, List.flatMap_append, Event.ofName_append]
  rfl

theorem mem_history {steps : List Step} {name : String} {e : Event} :
    e ∈ history steps name ↔ ∃ step ∈ steps, (name, e) ∈ step.call.events := by
  simp [history, eventsOf, Event.ofName]

def after (t : Table) (step : Step) : Table :=
  (t.performChain step.call step.rest).2

def afterAll (t : Table) (steps : List Step) : Table :=
  steps.foldl after t

theorem afterAll_concat (t : Table) (steps : List Step) (step : Step) :
    t.afterAll (steps ++ [step]) = (t.afterAll steps).after step :=
  List.foldl_append

theorem performAll_eq_afterAll {t t' : Table} {steps : List Step}
    (h : t.performAll steps = (.ok (), t')) : t' = t.afterAll steps := by
  induction steps generalizing t with
  | nil => exact (Prod.mk.inj h).2.symm
  | cons step rest ih =>
    rw [performAll] at h
    cases done : t.performChain step.call step.rest with
    | mk answer next =>
      rw [done] at h
      cases answer with
      | error fault => cases (Prod.mk.inj h).1
      | ok answer =>
        have stepped : t.after step = next := congrArg Prod.snd done
        rw [ih h, ← stepped]
        rfl

def putAll (t : Table) (columns : List Column) (indexes : List Index) : Table :=
  { t with
    columns := Keyed.putEach Column.name t.columns columns
    indexes := Keyed.putEach Index.name t.indexes indexes }

theorem addColumn_text {t : Table} {c : Column} (named : ∃ s, c.name = .text s) :
    t.addColumn c = .ok (t.putColumn c) := by
  obtain ⟨s, named⟩ := named
  simp [addColumn, named, Value.isKey]

theorem add_text {t : Table} {draft : Column.Draft}
    (named : ∀ c ∈ draft.column.toOption.toList, ∃ s, c.name = .text s) :
    t.add draft = draft.column.map fun c => (c, t.putColumn c) := by
  unfold add
  cases drawn : draft.column with
  | error fault => rfl
  | ok c =>
    have text := named c (mem_toOption.mpr drawn)
    change (t.addColumn c >>= fun t => .ok (c, t)) = .ok (c, t.putColumn c)
    rw [addColumn_text text]
    rfl

theorem idDraft_plain {name type : Value} {draft : Column.Draft}
    (h : idDraft name type = .ok draft) :
    draft.name = name ∧ (∃ word, draft.type = some (.text word)) ∧ draft.state = none := by
  unfold idDraft at h
  cases type with
  | text word =>
    dsimp only at h
    split at h
    · obtain rfl := Except.ok.inj h
      exact ⟨rfl, ⟨_, rfl⟩, rfl⟩
    · split at h
      · obtain rfl := Except.ok.inj h
        exact ⟨rfl, ⟨_, rfl⟩, rfl⟩
      · split at h
        · obtain rfl := Except.ok.inj h
          exact ⟨rfl, ⟨_, rfl⟩, rfl⟩
        · cases h
  | _ => cases h

theorem draft_column {draft : Column.Draft} {c : Column} (h : draft.column = .ok c) :
    c.name = draft.name ∧ (draft.type.getD draft.family.usualType).upper = .ok c.type ∧
      (draft.state = none → c.state = .new) := by
  unfold Column.Draft.column at h
  obtain ⟨type, upper, h⟩ := ok_of_bind_ok h
  dsimp only at h
  split at h
  · obtain ⟨state, new, h⟩ := ok_of_bind_ok h
    obtain ⟨family, -, h⟩ := ok_of_bind_ok h
    obtain rfl := Except.ok.inj h
    exact ⟨rfl, upper, fun _ => (Except.ok.inj new).symm⟩
  · next given stated =>
    obtain ⟨state, -, h⟩ := ok_of_bind_ok h
    obtain ⟨family, -, h⟩ := ok_of_bind_ok h
    obtain rfl := Except.ok.inj h
    exact ⟨rfl, upper, fun none => by rw [none] at stated; cases stated⟩

theorem draft_plain {draft : Column.Draft} {c : Column} (made : draft.column = .ok c)
    (named : ∃ s, draft.name = .text s)
    (typed : ∃ word, draft.type.getD draft.family.usualType = .text word)
    (new : draft.state = none) :
    (∃ s, c.name = .text s) ∧ (∃ type, c.type = .text type) ∧ c.state = .new := by
  obtain ⟨word, typed⟩ := typed
  obtain ⟨same, upper, state⟩ := draft_column made
  rw [typed] at upper
  exact ⟨same ▸ named, ⟨_, (Except.ok.inj upper).symm⟩, state new⟩

theorem idColumn_name {name type : Value} {c : Column} (h : idColumn name type = .ok c) :
    c.name = name := by
  obtain ⟨draft, drafted, made⟩ := ok_of_bind_ok h
  obtain ⟨upper, -, drafted⟩ := ok_of_bind_ok drafted
  exact (draft_column made).1.trans (idDraft_plain drafted).1

theorem columnList_text (s : String) :
    ∃ names : List String, Index.columnList (.text s) = .ok (names.map .text) :=
  ⟨(s.toList.splitOn ',').map fun name => String.ofList (Text.trimChars name),
    by simp [Index.columnList]⟩

theorem build_primary (table : Value) (name : String) :
    ∃ i, Index.build table .primary (.text name) .null = .ok i := by
  obtain ⟨names, listed⟩ := columnList_text name
  unfold Index.build
  rw [listed]
  simp only [Value.truthy, bind, Except.bind, Value.texts_map_text]
  exact ⟨_, rfl⟩

theorem build_columns {table columns name : Value} {kind : Index.Kind} {i : Index}
    (h : Index.build table kind columns name = .ok i) :
    Index.columnList columns = .ok i.columns := by
  obtain ⟨listed, read, h⟩ := ok_of_bind_ok h
  dsimp only at h
  split at h
  all_goals
    obtain ⟨named, -, h⟩ := ok_of_bind_ok h
    obtain rfl := Except.ok.inj h
    exact read

namespace Step

variable {rest : List Link}

theorem isPlain_add {draft : Column.Draft} (named : ∃ s, draft.name = .text s)
    (typed : ∃ word, draft.type.getD draft.family.usualType = .text word)
    (new : draft.state = none) (quiet : ∀ link ∈ rest, link.onColumn.isLifecycle = false) :
    IsPlain { call := .add draft, rest := rest } := by
  have plain (c : Column) (member : c ∈ (Call.add draft).defines) :=
    draft_plain (mem_toOption.mp member) named typed new
  exact ⟨by simp, fun c member => (plain c member).1, fun c member => (plain c member).2.1,
    fun c member => (plain c member).2.2, by simp [Call.declares], quiet⟩

theorem isPlain_id {column type : Option Value} (named : ∃ s, column.getD (.text "id") = .text s)
    (quiet : ∀ link ∈ rest, link.onColumn.isLifecycle = false) :
    IsPlain { call := .id column type, rest := rest } := by
  have plain (c : Column) (member : c ∈ (Call.id column type).defines) :
      (∃ s, c.name = .text s) ∧ (∃ type, c.type = .text type) ∧ c.state = .new := by
    obtain ⟨draft, drafted, made⟩ := ok_of_bind_ok (mem_toOption.mp member)
    obtain ⟨upper, -, drafted⟩ := ok_of_bind_ok drafted
    obtain ⟨same, ⟨word, typed⟩, new⟩ := idDraft_plain drafted
    exact draft_plain made (same ▸ named) ⟨word, by rw [typed]; rfl⟩ new
  refine ⟨by simp, fun c member => (plain c member).1, fun c member => (plain c member).2.1,
    fun c member => (plain c member).2.2, fun table i member => ?_, quiet⟩
  obtain ⟨c, -, built⟩ := ok_of_bind_ok (mem_toOption.mp member)
  obtain ⟨s, text⟩ := named
  obtain ⟨names, listed⟩ := columnList_text s
  have read := build_columns built
  rw [text, listed] at read
  exact ⟨names, (Except.ok.inj read).symm⟩

theorem isPlain_index {kind : Index.Kind} {columns name : Value}
    (listed : ∃ names : List String, Index.columnList columns = .ok (names.map .text))
    (quiet : ∀ link ∈ rest, link.onColumn.isLifecycle = false) :
    IsPlain { call := .index kind columns name, rest := rest } := by
  refine ⟨by simp, by simp [Call.defines], by simp [Call.defines], by simp [Call.defines],
    fun table i member => ?_, quiet⟩
  obtain ⟨names, listed⟩ := listed
  have read := build_columns (mem_toOption.mp member)
  rw [listed] at read
  exact ⟨names, (Except.ok.inj read).symm⟩

theorem isPlain_mark {call : Call} {name : String}
    (mark : call = .change (.text name) ∨ call = .drop (.text name))
    (quiet : ∀ link ∈ rest, link.onColumn.isLifecycle = false) :
    IsPlain { call := call, rest := rest } := by
  rcases mark with rfl | rfl
  all_goals
    exact ⟨by simp, by simp [Call.defines], by simp [Call.defines], by simp [Call.defines],
      by simp [Call.declares], quiet⟩

end Step

theorem addId_eq {t : Table} {name type : Value}
    (named : ∀ c ∈ (idColumn name type).toOption.toList, ∃ s, c.name = .text s) :
    (type.upper.bind (idDraft name)).bind t.add =
      (idColumn name type).map fun c => (c, t.putColumn c) := by
  unfold idColumn at *
  cases drafted : type.upper.bind (idDraft name) with
  | error fault => rfl
  | ok draft =>
    rw [drafted] at named
    exact add_text named

def Call.NamesTexts (call : Call) : Prop :=
  ∀ c ∈ call.defines, ∃ s, c.name = .text s

/-- All that a step does: it puts columns and indexes. -/
theorem after_eq {t : Table} {step : Step} (named : step.call.NamesTexts) :
    t.after step = t.putAll (step.puts t) (step.call.declares t.name) := by
  obtain ⟨call, rest⟩ := step
  unfold after performChain
  cases call with
  | id column type =>
    dsimp only [perform, addId, Step.puts, Call.defines, Call.declares] at named ⊢
    rw [addId_eq named]
    cases made : idColumn (column.getD (.text "id")) (type.getD (.text "INT")) with
    | error fault => rfl
    | ok c =>
      obtain ⟨s, text⟩ := named c (mem_toOption.mpr made)
      rw [idColumn_name made] at text
      obtain ⟨i, built⟩ := build_primary t.name s
      rw [text]
      dsimp only [Except.map, Except.bind, addIndex]
      rw [show (t.putColumn c).name = t.name from rfl, built]
      exact performOn_column t ((t.putColumn c).putIndex i) c rest rfl
  | add draft =>
    dsimp only [perform, Step.puts, Call.defines, Call.declares] at named ⊢
    rw [add_text named]
    cases draft.column with
    | error fault => rfl
    | ok c => exact performOn_column t (t.putColumn c) c rest rfl
  | timestamps => exact performOn_value ..
  | softDeletes => exact performOn_value ..
  | index kind columns name =>
    dsimp only [perform, addIndex, Step.puts, Call.defines, Call.declares]
    cases Index.build t.name kind columns name with
    | error fault => rfl
    | ok i => exact performOn_index ..
  | change name =>
    dsimp only [perform, change, Step.puts, Call.declares]
    cases t.column name with
    | error fault => rfl
    | ok c => exact performOn_column t (t.putColumn c.changed) c.changed rest rfl
  | drop name =>
    dsimp only [perform, drop, Step.puts, Call.declares]
    cases t.column name with
    | error fault => rfl
    | ok c => exact performOn_value ..
  | addColumn c =>
    dsimp only [perform]
    rw [addColumn_text (named c List.mem_cons_self)]
    exact performOn_column t (t.putColumn c) c rest rfl
  | addIndex i => exact performOn_index ..
  | columnNames => exact performOn_value ..
  | indexNames => exact performOn_value ..
  | shown => exact performOn_value ..
  | refused fault => rfl

/-! ## Runs -/

variable {names : List String} {events : List (String × Event)}
  {columns : List (Value × Column)}

theorem column_text (t : Table) (name : String) :
    (t.column (.text name)).toOption = Keyed.find? (.text name) t.columns := by
  unfold column
  cases Keyed.find? (.text name) t.columns <;> rfl

theorem Tracks.found (h : Tracks names events columns) {name : String} {c : Column}
    (lookup : Keyed.find? (.text name) columns = some c) :
    c.name = .text name ∧ (∃ type, c.type = .text type) ∧
      c.state = Event.fate (Event.ofName events name) := by
  obtain ⟨key, member, same⟩ := Keyed.mem_of_find? lookup
  refine ⟨?_, h.typed _ member, h.state name c lookup⟩
  exact (h.named _ member).trans ((Value.beq_text _ _).mp same)

theorem Tracks.define (h : Tracks names events columns) (added : List Column)
    (named : ∀ c ∈ added, ∃ s, c.name = .text s) (typed : ∀ c ∈ added, ∃ type, c.type = .text type)
    (new : ∀ c ∈ added, c.state = .new) :
    Tracks names (events ++ added.map fun c => (c.name.plain, .defined))
      (Keyed.putEach Column.name columns added) := by
  induction added generalizing events columns with
  | nil => simpa using h
  | cons c added ih =>
    rw [List.forall_mem_cons] at named typed new
    obtain ⟨name, text⟩ := named.1
    have first := h.put (e := .defined) text typed.1 (fun other => absurd rfl other)
      (new.1.trans (Event.fate_defined _).symm)
    have rest := ih first named.2 typed.2 new.2
    rwa [List.append_assoc, show name = c.name.plain by rw [text]; rfl] at rest

theorem Step.follow_name (step : Step) (c : Column) : (step.follow c).name = c.name := by
  unfold follow
  split
  · rfl
  · rfl
  · exact (c.afterCalls_keeps (step.rest.map Link.onColumn)).1

theorem Step.IsPlain.follow_keeps {step : Step} (plain : step.IsPlain) (c : Column) :
    (step.follow c).name = c.name ∧ (step.follow c).type = c.type ∧
      (step.follow c).state = c.state := by
  refine ⟨step.follow_name c, ?_⟩
  unfold Step.follow
  split
  · exact ⟨rfl, rfl⟩
  · exact ⟨rfl, rfl⟩
  · obtain ⟨-, type, state⟩ := c.afterCalls_keeps (step.rest.map Link.onColumn)
    exact ⟨type, state (by simpa using plain.quiet)⟩

theorem Tracks.defines {step : Step} (h : Tracks names events columns) (plain : step.IsPlain) :
    Tracks names (events ++ step.call.defines.map fun c => (c.name.plain, .defined))
      (Keyed.putEach Column.name columns (step.call.defines.map step.follow)) := by
  have kept (c : Column) := plain.follow_keeps c
  have tracked := h.define (step.call.defines.map step.follow)
    (by simpa [kept] using plain.named) (by simpa [kept] using plain.typed)
    (by simpa [kept] using plain.new)
  simpa [kept, Function.comp_def] using tracked

theorem Tracks.mark (h : Tracks names events columns) {name : String} {c c' : Column} {e : Event}
    (lookup : Keyed.find? (.text name) columns = some c)
    (named : c'.name = c.name) (typed : c'.type = c.type)
    (state : c'.state = Event.fate (Event.ofName events name ++ [e])) :
    Tracks names (events ++ [(name, e)]) (Keyed.put c'.name c' columns) := by
  obtain ⟨text, ⟨type, written⟩, -⟩ := h.found lookup
  have present : name ∈ Event.entered names events := by
    rw [← h.find?_isSome, lookup]
    rfl
  exact h.put (named.trans text) ⟨type, typed.trans written⟩ (fun _ => present) state

/-- One step extends the events by its own. -/
theorem tracks_after {t : Table} {step : Step} (h : Tracks names events t.columns)
    (plain : step.IsPlain) : Tracks names (events ++ step.call.events) (t.after step).columns := by
  rw [after_eq plain.named]
  have defines := h.defines plain
  obtain ⟨call, rest⟩ := step
  cases call with
  | change given =>
    obtain ⟨name, rfl⟩ := plain.target given (.inl rfl)
    dsimp only [putAll, Step.puts]
    rw [column_text]
    cases lookup : Keyed.find? (.text name) t.columns with
    | none => exact h.missed (by simp) lookup
    | some c =>
      obtain ⟨named, typed, state⟩ := plain.follow_keeps c.changed
      refine h.mark lookup (named.trans c.changed_name) (typed.trans c.changed_type) ?_
      rw [state, Column.changed_state, Event.fate_changed, (h.found lookup).2.2]
      rfl
  | drop given =>
    obtain ⟨name, rfl⟩ := plain.target given (.inr rfl)
    dsimp only [putAll, Step.puts]
    rw [column_text]
    cases lookup : Keyed.find? (.text name) t.columns with
    | none => exact h.missed (by simp) lookup
    | some c => exact h.mark lookup rfl rfl (Event.fate_dropped _).symm
  | _ => exact defines

theorem tracks_afterAll {t : Table} {steps : List Step} (h : Tracks names events t.columns)
    (plain : ∀ step ∈ steps, step.IsPlain) :
    Tracks names (events ++ eventsOf steps) (t.afterAll steps).columns := by
  induction steps generalizing t events with
  | nil => simpa [eventsOf, afterAll] using h
  | cons step rest ih =>
    rw [List.forall_mem_cons] at plain
    have run := ih (tracks_after h plain.1) plain.2
    rwa [List.append_assoc] at run

/-! ## Names and indexes -/

theorem after_name {t : Table} {step : Step} (named : step.call.NamesTexts) :
    (t.after step).name = t.name := by
  rw [after_eq named]
  rfl

theorem afterAll_name {t : Table} {steps : List Step}
    (named : ∀ step ∈ steps, step.call.NamesTexts) : (t.afterAll steps).name = t.name := by
  induction steps generalizing t with
  | nil => rfl
  | cons step rest ih =>
    rw [List.forall_mem_cons] at named
    exact (ih named.2).trans (after_name named.1)

theorem after_indexes {t : Table} {step : Step} (named : step.call.NamesTexts) :
    (t.after step).indexes = Keyed.putEach Index.name t.indexes (step.call.declares t.name) := by
  rw [after_eq named]
  rfl

theorem afterAll_indexes {t : Table} {steps : List Step}
    (named : ∀ step ∈ steps, step.call.NamesTexts) :
    (t.afterAll steps).indexes = Keyed.putEach Index.name t.indexes
      (steps.flatMap fun step => step.call.declares t.name) := by
  induction steps generalizing t with
  | nil => rfl
  | cons step rest ih =>
    rw [List.forall_mem_cons] at named
    change ((t.after step).afterAll rest).indexes = _
    rw [ih named.2, after_name named.1, after_indexes named.1, List.flatMap_cons,
      Keyed.putEach_append]

end Table

end FluentSql
