import FluentSql.Schema.Call
import Mathlib.Data.List.Induction
import Mathlib.Data.List.Nodup

/-!
# What calls make of a table's columns

What is done to a table is told again as a list of events on names: a column is
defined, changed or dropped. The events on one name, and of those the ones since
it was last defined, give the lifecycle state of its column. `Table.Tracks` says
that columns under their names are as the events tell, and each event keeps it
so.
-/

set_option autoImplicit false

namespace FluentSql

/-! ## Histories -/

inductive Event where
  | defined
  | changed
  | dropped
  deriving DecidableEq, Repr

namespace Event

def sinceDefined (history : List Event) : List Event :=
  (history.reverse.takeWhile fun e => e ≠ defined).reverse

/-- The state that a history leaves a column in: a drop outweighs every change, and a change
outweighs the definition. -/
def fate (history : List Event) : Column.State :=
  if dropped ∈ sinceDefined history then .deleted
  else if changed ∈ sinceDefined history then .modified
  else if defined ∈ history then .new
  else .unchanged

theorem sinceDefined_concat (history : List Event) (e : Event) :
    sinceDefined (history ++ [e]) = if e = defined then [] else sinceDefined history ++ [e] := by
  cases e <;> simp [sinceDefined]

theorem sinceDefined_append (before later : List Event) :
    sinceDefined (before ++ later) =
      if defined ∈ later then sinceDefined later else sinceDefined before ++ later := by
  induction later using List.reverseRecOn with
  | nil => simp
  | append_singleton later e ih =>
    rw [← List.append_assoc, sinceDefined_concat, sinceDefined_concat, ih]
    by_cases new : e = defined
    · simp [new]
    · by_cases old : defined ∈ later <;> simp [new, old, Ne.symm new]

theorem fate_defined (history : List Event) : fate (history ++ [defined]) = .new := by
  simp [fate, sinceDefined_concat]

theorem fate_eq_deleted (history : List Event) :
    fate history = .deleted ↔ dropped ∈ sinceDefined history := by
  unfold fate
  split
  · simp [*]
  · split
    · simp [*]
    · split <;> simp [*]

theorem fate_changed (history : List Event) :
    fate (history ++ [changed]) = if fate history = .deleted then .deleted else .modified := by
  simp only [fate_eq_deleted]
  simp [fate, sinceDefined_concat]

theorem fate_dropped (history : List Event) : fate (history ++ [dropped]) = .deleted := by
  simp [fate, sinceDefined_concat]

theorem defined_not_mem_sinceDefined (history : List Event) : defined ∉ sinceDefined history := by
  induction history using List.reverseRecOn with
  | nil => simp [sinceDefined]
  | append_singleton history e ih =>
    rw [sinceDefined_concat]
    split
    · exact List.not_mem_nil
    · next other => simpa [ih] using Ne.symm other

theorem fate_eq_new (history : List Event) :
    fate history = .new ↔ defined ∈ history ∧ sinceDefined history = [] := by
  have only : sinceDefined history = [] ↔
      dropped ∉ sinceDefined history ∧ changed ∉ sinceDefined history := by
    rw [List.eq_nil_iff_forall_not_mem]
    constructor
    · exact fun none => ⟨none _, none _⟩
    · rintro ⟨noDrop, noChange⟩ (_ | _ | _)
      · exact defined_not_mem_sinceDefined history
      · exact noChange
      · exact noDrop
  rw [only, fate]
  split
  · simp [*]
  · split
    · simp [*]
    · split <;> simp [*]

theorem fate_unchanged {history : List Event} (h : fate history = .unchanged) :
    defined ∉ history := by
  intro new
  rw [fate, if_pos new] at h
  split at h
  · cases h
  · split at h <;> cases h

def ofName (events : List (String × Event)) (name : String) : List Event :=
  (events.filter fun e => e.1 = name).map Prod.snd

theorem ofName_append (before later : List (String × Event)) (name : String) :
    ofName (before ++ later) name = ofName before name ++ ofName later name := by
  simp [ofName]

/-- The names of columns in the order in which they first came, after those that were there. -/
def entered (names : List String) (events : List (String × Event)) : List String :=
  (names ++ (events.filter fun e => e.2 = defined).map Prod.fst).eraseDups

def came (names : List String) (events : List (String × Event)) : List String :=
  names ++ (events.filter fun e => e.2 = defined).map Prod.fst

theorem entered_eq (names : List String) (events : List (String × Event)) :
    entered names events = (came names events).eraseDups := rfl

theorem came_defined (names : List String) (events : List (String × Event)) (on : String) :
    came names (events ++ [(on, defined)]) = came names events ++ [on] := by
  simp [came]

theorem ofName_concat (events : List (String × Event)) (on name : String) (e : Event) :
    ofName (events ++ [(on, e)]) name =
      if on = name then ofName events name ++ [e] else ofName events name := by
  by_cases same : on = name <;> simp [ofName, same]

theorem defined_mem_ofName (events : List (String × Event)) (name : String) :
    defined ∈ ofName events name ↔ (name, defined) ∈ events.filter fun e => e.2 = defined := by
  simp [ofName]

theorem mem_entered (names : List String) (events : List (String × Event)) (name : String) :
    name ∈ entered names events ↔ name ∈ names ∨ defined ∈ ofName events name := by
  simp [entered, ofName]

theorem eraseDups_concat (xs : List String) (x : String) :
    (xs ++ [x]).eraseDups = if x ∈ xs then xs.eraseDups else xs.eraseDups ++ [x] := by
  rw [List.eraseDups_append]
  by_cases old : x ∈ xs <;> simp [List.removeAll, List.eraseDups_cons, old]

theorem nodup_eraseDups (xs : List String) : xs.eraseDups.Nodup := by
  induction xs using List.reverseRecOn with
  | nil => exact List.nodup_nil
  | append_singleton xs x ih =>
    rw [eraseDups_concat]
    split
    · exact ih
    · next new =>
      refine List.nodup_append.mpr ⟨ih, List.nodup_singleton x, ?_⟩
      rintro old member _ last rfl
      obtain rfl := List.mem_singleton.mp last
      exact new (List.mem_eraseDups.mp member)

theorem eraseDups_of_nodup {names : List String} (distinct : names.Nodup) :
    names.eraseDups = names := by
  induction names using List.reverseRecOn with
  | nil => rfl
  | append_singleton names name ih =>
    obtain ⟨before, -, apart⟩ := List.nodup_append.mp distinct
    have new : name ∉ names := fun old => apart name old name List.mem_cons_self rfl
    rw [eraseDups_concat, if_neg new, ih before]

theorem entered_nil {names : List String} (distinct : names.Nodup) : entered names [] = names := by
  rw [entered, List.filter_nil, List.map_nil, List.append_nil, eraseDups_of_nodup distinct]

theorem entered_other (names : List String) (events : List (String × Event)) (on : String)
    {e : Event} (other : e ≠ defined) :
    entered names (events ++ [(on, e)]) = entered names events := by
  simp [entered, other]

end Event

/-! ## Columns under their names -/

namespace Keyed

variable {α β : Type}

theorem isSome_find? (k : Value) (entries : List (Value × α)) :
    (find? k entries).isSome = entries.any fun entry => entry.1 == k := by
  induction entries with
  | nil => rfl
  | cons entry entries ih =>
    by_cases same : (entry.1 == k) = true <;> simp [find?, same, ih]

theorem mem_of_find? {k : Value} {x : α} {entries : List (Value × α)}
    (h : find? k entries = some x) : ∃ key, (key, x) ∈ entries ∧ (key == k) = true := by
  induction entries with
  | nil => cases h
  | cons first rest ih =>
    by_cases same : (first.1 == k) = true
    · obtain rfl : first.2 = x := by simpa [find?, same] using h
      exact ⟨first.1, List.mem_cons_self, same⟩
    · simp only [find?, same] at h
      obtain ⟨key, member, equal⟩ := ih (by simpa using h)
      exact ⟨key, List.mem_cons_of_mem _ member, equal⟩

theorem find?_of_mem {k : Value} {x : α} {entries : List (Value × α)}
    (distinct : (entries.map Prod.fst).Nodup) (member : (k, x) ∈ entries)
    (equal : ∀ key : Value, (key == k) = true ↔ key = k) : find? k entries = some x := by
  induction entries with
  | nil => cases member
  | cons first rest ih =>
    obtain ⟨new, distinct⟩ := List.nodup_cons.mp distinct
    rw [find?]
    split
    · next same =>
      rcases List.mem_cons.mp member with rfl | later
      · rfl
      · rw [(equal _).mp same] at new
        exact absurd (List.mem_map_of_mem later) new
    · next apart =>
      rcases List.mem_cons.mp member with rfl | later
      · exact absurd ((equal k).mpr rfl) apart
      · exact ih distinct later

theorem mem_put {k : Value} {x : α} {entries : List (Value × α)} {entry : Value × α}
    (h : entry ∈ put k x entries) :
    entry ∈ entries ∨ entry.2 = x ∧ (entry.1 = k ∨ (entry.1 == k) = true) := by
  induction entries with
  | nil =>
    obtain rfl := List.mem_singleton.mp h
    exact .inr ⟨rfl, .inl rfl⟩
  | cons first rest ih =>
    by_cases same : (first.1 == k) = true
    · simp only [put, same, if_true, List.mem_cons] at h
      rcases h with rfl | h
      · exact .inr ⟨rfl, .inr same⟩
      · exact .inl (List.mem_cons_of_mem _ h)
    · rw [put, if_neg same] at h
      rcases List.mem_cons.mp h with rfl | h
      · exact .inl List.mem_cons_self
      · exact (ih h).imp_left (List.mem_cons_of_mem _)

theorem put_found {k : Value} {x : α} {entries : List (Value × α)}
    (h : find? k entries = some x) : put k x entries = entries := by
  induction entries with
  | nil => cases h
  | cons first rest ih =>
    by_cases same : (first.1 == k) = true
    · obtain rfl : first.2 = x := by simpa [find?, same] using h
      simp [put, same]
    · simp only [find?, same] at h
      simp [put, same, ih h]

theorem find?_put_text (name other : String) (x : α) (entries : List (Value × α)) :
    find? (.text other) (put (.text name) x entries) =
      if name = other then some x else find? (.text other) entries := by
  have self : (Value.text name == .text name) = true := (Value.beq_text _ _).mpr rfl
  by_cases same : name = other
  · rw [if_pos same, ← same]
    exact find?_put_self _ _ _ self
  · have apart (key : Value) (here : (key == .text name) = true) :
        (key == .text other) = false := by
      rw [(Value.beq_text _ _).mp here, Value.text_beq_text]
      simpa using same
    rw [if_neg same]
    exact find?_put_other _ _ _ _ (apart _ self) apart

def putEach (key : α → Value) (kept : List (Value × α)) (added : List α) : List (Value × α) :=
  added.foldl (fun kept x => put (key x) x kept) kept

@[simp] theorem putEach_nil (key : α → Value) (kept : List (Value × α)) :
    putEach key kept [] = kept := rfl

@[simp] theorem putEach_cons (key : α → Value) (kept : List (Value × α)) (x : α)
    (added : List α) :
    putEach key kept (x :: added) = putEach key (put (key x) x kept) added := rfl

theorem putEach_append (key : α → Value) (kept : List (Value × α)) (added more : List α) :
    putEach key kept (added ++ more) = putEach key (putEach key kept added) more :=
  List.foldl_append

theorem mem_putEach {key : α → Value} {kept : List (Value × α)} {added : List α}
    {entry : Value × α} (h : entry ∈ putEach key kept added) :
    entry ∈ kept ∨ entry.2 ∈ added := by
  induction added generalizing kept with
  | nil => exact .inl h
  | cons x added ih =>
    rcases ih h with before | later
    · rcases mem_put before with old | ⟨same, -⟩
      · exact .inl old
      · exact .inr (same ▸ List.mem_cons_self)
    · exact .inr (List.mem_cons_of_mem _ later)

theorem put_ne_nil (k : Value) (x : α) (entries : List (Value × α)) : put k x entries ≠ [] := by
  cases entries with
  | nil => simp [put]
  | cons first rest =>
    rw [put]
    split <;> simp

theorem putEach_eq_nil {key : α → Value} {kept : List (Value × α)} {added : List α} :
    putEach key kept added = [] ↔ kept = [] ∧ added = [] := by
  induction added generalizing kept with
  | nil => simp
  | cons x added ih => simp [ih, put_ne_nil]

theorem find?_putEach_text {key : α → Value} {kept : List (Value × α)} {added : List α}
    (texts : ∀ x ∈ added, ∃ s, key x = .text s) (name : String) :
    find? (.text name) (putEach key kept added) =
      (added.reverse.find? fun x => key x == .text name).or (find? (.text name) kept) := by
  induction added generalizing kept with
  | nil => rfl
  | cons x added ih =>
    rw [List.forall_mem_cons] at texts
    obtain ⟨s, text⟩ := texts.1
    rw [putEach_cons, ih texts.2, text, find?_put_text, List.reverse_cons, List.find?_append,
      Option.or_assoc]
    by_cases same : s = name <;> simp [text, Value.text_beq_text, same]

structure Lined (key : α → Value) (came : List String) (entries : List (Value × α)) : Prop where
  keys : entries.map Prod.fst = came.eraseDups.map .text
  own : ∀ entry ∈ entries, key entry.2 = entry.1

variable {key : α → Value} {came : List String} {entries : List (Value × α)}

theorem Lined.any_key (h : Lined key came entries) (name : String) :
    (entries.any fun entry => entry.1 == .text name) = true ↔ name ∈ came := by
  have keys := congrArg (List.any · fun key => key == Value.text name) h.keys
  simp only [List.any_map, Function.comp_def, Value.text_beq_text] at keys
  rw [keys]
  simp

theorem Lined.distinct (h : Lined key came entries) : (entries.map Prod.fst).Nodup := by
  rw [h.keys]
  exact (Event.nodup_eraseDups _).map fun _ _ same => Value.text.inj same

theorem Lined.put (h : Lined key came entries) {x : α} {name : String}
    (text : key x = .text name) : Lined key (came ++ [name]) (put (key x) x entries) := by
  rw [text]
  constructor
  · rw [keys_put, h.keys, Event.eraseDups_concat]
    simp only [h.any_key]
    split <;> simp
  · intro entry member
    rcases mem_put member with old | ⟨same, under⟩
    · exact h.own entry old
    · rw [same, text]
      exact (under.elim id (Value.beq_text _ _).mp).symm

theorem Lined.putEach (h : Lined key came entries) {added : List α}
    (texts : ∀ x ∈ added, ∃ s, key x = .text s) :
    Lined key (came ++ added.map fun x => (key x).plain) (putEach key entries added) := by
  induction added generalizing came entries with
  | nil => simpa using h
  | cons x added ih =>
    rw [List.forall_mem_cons] at texts
    obtain ⟨name, text⟩ := texts.1
    have rest := ih (h.put text) texts.2
    rwa [List.append_assoc, show name = (key x).plain by rw [text]; rfl] at rest

theorem Lined.again {name : String} (h : Lined key (came ++ [name]) entries)
    (before : name ∈ came) : Lined key came entries := by
  refine ⟨h.keys.trans ?_, h.own⟩
  rw [Event.eraseDups_concat, if_pos before]

theorem Lined.find? (h : Lined key came entries) {entry : Value × α} (member : entry ∈ entries) :
    ∃ name ∈ came, entry.1 = .text name ∧ find? (.text name) entries = some entry.2 := by
  have among : entry.1 ∈ came.eraseDups.map Value.text := by
    rw [← h.keys]
    exact List.mem_map_of_mem member
  obtain ⟨name, there, text⟩ := List.mem_map.mp among
  exact ⟨name, List.mem_eraseDups.mp there, text.symm,
    find?_of_mem h.distinct (by rwa [text]) fun key => Value.beq_text key name⟩

def mapValues (f : α → β) (entries : List (Value × α)) : List (Value × β) :=
  entries.map fun entry => (entry.1, f entry.2)

theorem keys_mapValues (f : α → β) (entries : List (Value × α)) :
    (mapValues f entries).map Prod.fst = entries.map Prod.fst := by
  rw [mapValues, List.map_map]
  rfl

theorem mapValues_put (f : α → β) (k : Value) (x : α) (entries : List (Value × α)) :
    mapValues f (put k x entries) = put k (f x) (mapValues f entries) := by
  induction entries with
  | nil => rfl
  | cons first rest ih =>
    by_cases same : (first.1 == k) = true
    · simp [put, mapValues, same]
    · simp only [mapValues] at ih
      simp [put, mapValues, same, ih]

theorem mapValues_putEach {f : α → β} {key : α → Value} {key' : β → Value}
    (same : ∀ x, key' (f x) = key x) (kept : List (Value × α)) (added : List α) :
    mapValues f (putEach key kept added) = putEach key' (mapValues f kept) (added.map f) := by
  induction added generalizing kept with
  | nil => rfl
  | cons x added ih => rw [putEach_cons, ih, mapValues_put, List.map_cons, putEach_cons, same]

theorem find?_mapValues (f : α → β) (k : Value) (entries : List (Value × α)) :
    find? k (mapValues f entries) = (find? k entries).map f := by
  induction entries with
  | nil => rfl
  | cons first rest ih =>
    simp only [mapValues] at ih
    by_cases same : (first.1 == k) = true <;> simp [find?, mapValues, same, ih]

end Keyed

namespace Table

/-- Columns stand under their names, which are in the order in which they came; each has a type
name and is in the state of its history. -/
structure Tracks (names : List String) (events : List (String × Event))
    (columns : List (Value × Column)) : Prop where
  keys : columns.map Prod.fst = (Event.entered names events).map .text
  named : ∀ entry ∈ columns, entry.2.name = entry.1
  typed : ∀ entry ∈ columns, ∃ type, entry.2.type = .text type
  state : ∀ name c, Keyed.find? (.text name) columns = some c →
    c.state = Event.fate (Event.ofName events name)

variable {names : List String} {events : List (String × Event)}
  {columns : List (Value × Column)}

theorem Tracks.lined (h : Tracks names events columns) :
    Keyed.Lined Column.name (Event.came names events) columns :=
  ⟨h.keys, h.named⟩

theorem Tracks.find?_isSome (h : Tracks names events columns) (name : String) :
    (Keyed.find? (.text name) columns).isSome = true ↔ name ∈ Event.entered names events := by
  rw [Keyed.isSome_find?, h.lined.any_key, Event.entered_eq, List.mem_eraseDups]

theorem Tracks.put (h : Tracks names events columns) {name : String} {c : Column} {e : Event}
    (named : c.name = .text name) (typed : ∃ type, c.type = .text type)
    (present : e ≠ .defined → name ∈ Event.entered names events)
    (state : c.state = Event.fate (Event.ofName events name ++ [e])) :
    Tracks names (events ++ [(name, e)]) (Keyed.put c.name c columns) := by
  have lined := h.lined.put named
  refine ⟨?_, lined.own, ?_, ?_⟩
  · by_cases new : e = .defined
    · rw [lined.keys, Event.entered_eq, new, Event.came_defined]
    · have again := lined.again (List.mem_eraseDups.mp (present new))
      rw [again.keys, Event.entered_other names events name new, Event.entered_eq]
  · intro entry member
    rcases Keyed.mem_put member with old | ⟨same, -⟩
    · exact h.typed entry old
    · rwa [same]
  · intro other found lookup
    rw [named, Keyed.find?_put_text] at lookup
    rw [Event.ofName_concat]
    split at lookup
    · next same =>
      subst same
      obtain rfl := Option.some.inj lookup
      rw [if_pos rfl, state]
    · next apart =>
      rw [if_neg apart]
      exact h.state other found lookup

theorem Tracks.missed (h : Tracks names events columns) {name : String} {e : Event}
    (other : e ≠ .defined) (absent : Keyed.find? (.text name) columns = none) :
    Tracks names (events ++ [(name, e)]) columns := by
  refine ⟨?_, h.named, h.typed, fun found c lookup => ?_⟩
  · rw [Event.entered_other names events name other]
    exact h.keys
  · have apart : name ≠ found := by
      rintro rfl
      rw [absent] at lookup
      cases lookup
    rw [Event.ofName_concat, if_neg apart]
    exact h.state found c lookup

theorem Tracks.fate_of_mem (h : Tracks names events columns) {entry : Value × Column}
    (member : entry ∈ columns) :
    ∃ name ∈ Event.entered names events, entry.1 = .text name ∧
      entry.2.state = Event.fate (Event.ofName events name) := by
  obtain ⟨name, came, text, found⟩ := h.lined.find? member
  exact ⟨name, List.mem_eraseDups.mpr came, text, h.state name entry.2 found⟩

theorem Tracks.outline (h : Tracks names events columns) :
    columns.map (fun entry => (entry.2.name, entry.2.state)) =
      (Event.entered names events).map fun name =>
        (.text name, Event.fate (Event.ofName events name)) := by
  let told := fun key : Value => (key, Event.fate (Event.ofName events key.plain))
  have each : ∀ entry ∈ columns, (entry.2.name, entry.2.state) = told entry.1 := by
    intro entry member
    obtain ⟨name, -, text, state⟩ := h.fate_of_mem member
    rw [h.named entry member, state, text]
    rfl
  calc columns.map (fun entry => (entry.2.name, entry.2.state))
      = (columns.map Prod.fst).map told := by rw [List.map_map]; exact List.map_congr_left each
    _ = _ := by rw [h.keys, List.map_map]; rfl

end Table

end FluentSql
