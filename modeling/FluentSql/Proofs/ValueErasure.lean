import FluentSql.Proofs.BindText
import FluentSql.Query.Statement

/-!
# Statements do not depend on their values

Erasing a query puts null in the place of each of its values and leaves all
else. Compiling commutes with erasing, clause by clause and at every depth of
a group, and erasing a fragment changes nothing of its text. So the text of a
statement is that of the erased query, and two queries that are the same once
they are erased have the same text, equally many values, and the same
prepared statement with the same names for its parameters.
-/

set_option autoImplicit false

namespace FluentSql

/-! ## Fragments -/

def Piece.erased : Piece → Piece
  | sql text => sql text
  | hole _ => hole .null

def erasedValues (values : List Value) : List Value :=
  values.map fun _ => .null

namespace Fragment

def erased (f : Fragment) : Fragment :=
  f.map Piece.erased

theorem erased_append (f g : Fragment) : erased (f ++ g) = erased f ++ erased g :=
  List.map_append

theorem isEmpty_erased (f : Fragment) : (erased f).isEmpty = f.isEmpty := by
  cases f <;> rfl

theorem sql_erased (f : Fragment) : (erased f).sql = f.sql := by
  induction f with
  | nil => rfl
  | cons p f ih =>
    cases p with
    | sql text => exact congrArg (text ++ ·) ih
    | hole v => exact congrArg ("?" ++ ·) ih

theorem erased_joined (separator : String) (fs : List Fragment) :
    erased (joined separator fs) = joined separator (fs.map erased) := by
  induction fs with
  | nil => rfl
  | cons f rest ih =>
    cases rest with
    | nil => rfl
    | cons g rest =>
      have others : erased (.sql separator :: joined separator (g :: rest)) =
          .sql separator :: joined separator ((g :: rest).map erased) :=
        congrArg (Piece.sql separator :: ·) ih
      rw [joined, erased_append, others]
      rfl

theorem erased_spaced (fs : List Fragment) : erased (spaced fs) = spaced (fs.map erased) := by
  have kept : (fs.map erased).filter (fun f => !f.isEmpty) =
      (fs.filter fun f => !f.isEmpty).map erased := by
    rw [List.filter_map]
    congr 2
    funext f
    simp [isEmpty_erased]
  rw [spaced, spaced, kept, erased_joined]

theorem erased_holes (values : List Value) :
    erased (holes values) = holes (erasedValues values) := by
  rw [holes, erased_joined, holes, erasedValues, List.map_map, List.map_map]
  rfl

theorem erased_ofText (text : String) : erased (ofText text) = ofText text := by
  unfold ofText
  split <;> rfl

end Fragment

/-! ## Clauses -/

namespace Condition

def erased : Condition → Condition
  | compare column operator _ => compare column operator .null
  | oneOf column values => oneOf column (erasedValues values)
  | noneOf column values => noneOf column (erasedValues values)
  | isNull column => isNull column
  | isNotNull column => isNotNull column
  | between column _ _ => between column .null .null
  | like column _ => like column .null

theorem fragment_erased (c : Condition) : c.erased.fragment = c.fragment.erased := by
  cases c with
  | oneOf column values =>
    simp only [erased, fragment, ← Fragment.erased_holes]
    simp [Fragment.erased, Piece.erased]
  | noneOf column values =>
    simp only [erased, fragment, ← Fragment.erased_holes]
    simp [Fragment.erased, Piece.erased]
  | compare | isNull | isNotNull | between | like => rfl

theorem values_erased (c : Condition) : c.erased.values = erasedValues c.values := by
  cases c <;> rfl

end Condition

namespace Where

mutual

def erased : Where → Where
  | leaf connective condition => leaf connective condition.erased
  | group connective members => group connective (erasedAll members)

def erasedAll : List Where → List Where
  | [] => []
  | w :: rest => erased w :: erasedAll rest

end

theorem connective_erased (w : Where) : w.erased.connective = w.connective := by
  cases w <;> rfl

mutual

theorem body_erased (w : Where) : w.erased.body = w.body.erased := by
  cases w with
  | leaf _ condition => exact condition.fragment_erased
  | group _ members =>
    rw [erased, body, body, listed_erased members]
    simp [Fragment.erased, Piece.erased]

theorem listed_erased (ws : List Where) : listed (erasedAll ws) = (listed ws).erased := by
  cases ws with
  | nil => rfl
  | cons w rest =>
    rw [erasedAll, listed, listed, Fragment.erased_append, body_erased w, continued_erased rest]

theorem continued_erased (ws : List Where) : continued (erasedAll ws) = (continued ws).erased := by
  cases ws with
  | nil => rfl
  | cons w rest =>
    rw [erasedAll, continued, continued, connectiveText, connective_erased, body_erased w,
      continued_erased rest, ← Fragment.erased_append]
    rfl

end

mutual

theorem values_erased (w : Where) : w.erased.values = erasedValues w.values := by
  cases w with
  | leaf _ condition => exact condition.values_erased
  | group _ members => exact valuesAll_erased members

theorem valuesAll_erased (ws : List Where) :
    valuesAll (erasedAll ws) = erasedValues (valuesAll ws) := by
  cases ws with
  | nil => rfl
  | cons w rest =>
    rw [erasedAll, valuesAll, valuesAll, values_erased w, valuesAll_erased rest, erasedValues,
      erasedValues, erasedValues, List.map_append]

end

theorem clause_erased (ws : List Where) : clause (erasedAll ws) = (clause ws).erased := by
  cases ws with
  | nil => rfl
  | cons w rest => exact congrArg (Piece.sql "WHERE " :: ·) (listed_erased (w :: rest))

end Where

/-! ## Statements -/

namespace Query

def erased (q : Query) : Query :=
  { q with
    wheres := Where.erasedAll q.wheres
    assignments := q.assignments.map fun entry => (entry.1, .null) }

/-- The queries differ in what they bind, and in nothing else. -/
def SameButValues (q r : Query) : Prop :=
  q.erased = r.erased

structure Named (q : Query) : Prop where
  columns : ∃ names : List String, q.columns = names.map Value.text
  keys : ∃ names : List String, q.assignments.map Prod.fst = names.map Value.text

variable {q r : Query}

theorem keys_erased (q : Query) :
    q.erased.assignments.map Prod.fst = q.assignments.map Prod.fst := by
  simp [erased]

theorem select_erased (q : Query) : q.erased.select = q.select.map Fragment.erased := by
  have columns : q.erased.columnText = q.columnText := rfl
  rw [select, select, columns]
  cases q.columnText with
  | error f => rfl
  | ok names =>
    simp only [Except.map, Fragment.erased_spaced, List.map_cons, List.map_nil,
      Fragment.erased_ofText, ← Where.clause_erased]
    rfl

theorem insert_erased (q : Query) : q.erased.insert = q.insert.map Fragment.erased := by
  rw [insert, insert, keys_erased]
  cases Value.texts (q.assignments.map Prod.fst) with
  | error f => rfl
  | ok names =>
    have values : q.erased.assignments.map Prod.snd =
        erasedValues (q.assignments.map Prod.snd) := by
      simp [erased, erasedValues]
    simp only [Except.map, values, ← Fragment.erased_holes]
    simp [Fragment.erased, Piece.erased, tableText, erased]

theorem update_erased (q : Query) : q.erased.update = q.update.erased := by
  have set : q.erased.assignments.map assignment =
      (q.assignments.map assignment).map Fragment.erased := by
    rw [erased, List.map_map, List.map_map]
    rfl
  rw [update, update, Fragment.erased_spaced, set, ← Fragment.erased_joined, List.map_cons,
    List.map_cons, ← Where.clause_erased]
  rfl

theorem delete_erased (q : Query) : q.erased.delete = q.delete.erased := by
  rw [delete, delete, Fragment.erased_spaced, List.map_cons, List.map_cons, ← Where.clause_erased]
  rfl

theorem compile_erased (q : Query) : q.erased.compile = q.compile.map Fragment.erased := by
  have kind : q.erased.kind = q.kind := rfl
  rw [compile, compile, kind]
  cases q.kind with
  | select => exact q.select_erased
  | insert => exact q.insert_erased
  | update => exact congrArg Except.ok q.update_erased
  | delete => exact congrArg Except.ok q.delete_erased

theorem bindings_erased (q : Query) : q.erased.bindings = erasedValues q.bindings := by
  have wheres : q.erased.whereBindings = erasedValues q.whereBindings :=
    Where.valuesAll_erased q.wheres
  have written : q.erased.assignments.map Prod.snd = erasedValues (q.assignments.map Prod.snd) := by
    simp [erased, erasedValues]
  have kind : q.erased.kind = q.kind := rfl
  rw [bindings, bindings, kind]
  cases q.kind with
  | select => exact wheres
  | insert => exact written
  | update =>
    rw [bindingsAs, bindingsAs, wheres, written, erasedValues, erasedValues, erasedValues,
      List.map_append]
  | delete => exact wheres

theorem Named.compile_ok (h : q.Named) : ∃ f, q.compile = .ok f := by
  obtain ⟨columns, hcolumns⟩ := h.columns
  obtain ⟨keys, hkeys⟩ := h.keys
  unfold compile
  cases q.kind with
  | select =>
    cases columns with
    | nil => exact ⟨_, by rw [statement, select, columnText, hcolumns]; rfl⟩
    | cons first rest =>
      have read : q.columnText = .ok (", ".intercalate (first :: rest)) := by
        rw [columnText, hcolumns, List.map_cons]
        simp only [← List.map_cons, Value.texts_map_text]
        rfl
      exact ⟨_, by rw [statement, select, read]; rfl⟩
  | insert => exact ⟨_, by rw [statement, insert, hkeys, Value.texts_map_text]; rfl⟩
  | update => exact ⟨_, rfl⟩
  | delete => exact ⟨_, rfl⟩

theorem SameButValues.length_bindings (same : q.SameButValues r) :
    q.bindings.length = r.bindings.length := by
  have erased : erasedValues q.bindings = erasedValues r.bindings := by
    rw [← bindings_erased, ← bindings_erased, same]
  simpa [erasedValues] using congrArg List.length erased

theorem compile_text (q : Query) :
    q.compile.map Fragment.sql = q.erased.compile.map Fragment.sql := by
  rw [compile_erased]
  cases q.compile with
  | error f => rfl
  | ok f => exact congrArg Except.ok f.sql_erased.symm

end Query

/-! ## Preparing -/

namespace Connection

theorem prepare_alike (sql : String) {values others : List Value}
    (same : values.length = others.length) :
    (∃ f, prepare sql values = .error f ∧ prepare sql others = .error f) ∨
    ∃ p q, prepare sql values = .ok p ∧ prepare sql others = .ok q ∧
      p.statement = q.statement ∧
      p.parameters.map Prod.fst = q.parameters.map Prod.fst ∧
      p.parameters.map Prod.snd = values ∧ q.parameters.map Prod.snd = others := by
  have names (vs : List Value) :
      (vs.zipIdx.map fun entry => (bindName entry.2, entry.1)).map Prod.fst =
        (List.range vs.length).map bindName := by
    rw [List.range_eq_range', ← List.zipIdx_map_snd 0 vs, List.map_map, List.map_map]
    rfl
  have kept (vs : List Value) :
      (vs.zipIdx.map fun entry => (bindName entry.2, entry.1)).map Prod.snd = vs := by
    rw [List.map_map]
    exact List.zipIdx_map_fst 0 vs
  by_cases count : Scan.placeholderCount sql = values.length
  · refine .inr ⟨_, _, prepare_of_count count, prepare_of_count (count.trans same), rfl, ?_,
      kept values, kept others⟩
    rw [names, names, same]
  · refine .inl ⟨_, by rw [prepare, if_pos count], ?_⟩
    rw [prepare, if_pos (by rwa [← same]), same]

end Connection

namespace Query

variable {q r : Query}

/-- The two queries have one text and equally many values, and preparing it for either is refused
for one reason, or gives one statement with the same names in the same order. -/
def CompiledAlike (q r : Query) : Prop :=
  ∃ sql, q.prepared = .ok (sql, q.bindings) ∧ r.prepared = .ok (sql, r.bindings) ∧
    q.bindings.length = r.bindings.length ∧
    ((∃ f, Connection.prepare sql q.bindings = .error f ∧
        Connection.prepare sql r.bindings = .error f) ∨
      ∃ p p', Connection.prepare sql q.bindings = .ok p ∧
        Connection.prepare sql r.bindings = .ok p' ∧ p.statement = p'.statement ∧
        p.parameters.map Prod.fst = p'.parameters.map Prod.fst ∧
        p.parameters.map Prod.snd = q.bindings ∧ p'.parameters.map Prod.snd = r.bindings)

/-- What a query binds has no influence on its text. Only a query that is not named by texts is
refused, and then so is the other, for the same reason. -/
theorem compiled_alike_of_same_but_values (q r : Query) (same : q.SameButValues r) :
    CompiledAlike q r ∨
      ¬q.Named ∧ ¬r.Named ∧ ∃ f, q.prepared = .error f ∧ r.prepared = .error f := by
  have texts : q.compile.map Fragment.sql = r.compile.map Fragment.sql := by
    rw [compile_text q, compile_text r, same]
  cases hq : q.compile with
  | ok f =>
    cases hr : r.compile with
    | ok g =>
      have text : f.sql = g.sql := by simpa [hq, hr, Except.map] using texts
      refine .inl ⟨f.sql, by rw [prepared, hq]; rfl, by rw [prepared, hr, text]; rfl,
        same.length_bindings, Connection.prepare_alike f.sql same.length_bindings⟩
    | error fault => simp [hq, hr, Except.map] at texts
  | error fault =>
    have refused {p : Query} (h : p.compile = .error fault) : ¬p.Named := by
      intro named
      obtain ⟨f, compiled⟩ := named.compile_ok
      rw [h] at compiled
      cases compiled
    cases hr : r.compile with
    | ok g => simp [hq, hr, Except.map] at texts
    | error other =>
      obtain rfl : fault = other := by simpa [hq, hr, Except.map] using texts
      exact .inr ⟨refused hq, refused hr, fault, by rw [prepared, hq]; rfl,
        by rw [prepared, hr]; rfl⟩

/-- An update with values in every kind of place, one of them in a group in a group. -/
def moderation (title author low high pattern : Value) : Query where
  table := .text "posts"
  kind := .update
  wheres := [
    .leaf .and (.compare "state" "=" title),
    .group .or [
      .leaf .and (.oneOf "author" [author, title]),
      .group .or [.leaf .and (.between "at" low high), .leaf .or (.like "title" pattern)]]]
  assignments := [(.text "title", title), (.text "note", pattern)]

theorem moderation_compiled_alike :
    let plain := moderation (.text "news") (.int 7) (.int 1) (.int 9) (.text "n%")
    let hostile := moderation (.text "'; DROP TABLE posts; --") .null (.text "?") (.text "\\")
      (.list [.text "?", .bool true])
    plain.SameButValues hostile ∧ CompiledAlike plain hostile := by
  intro plain hostile
  have same : plain.SameButValues hostile := rfl
  have named : plain.Named := ⟨⟨["*"], rfl⟩, ⟨["title", "note"], rfl⟩⟩
  exact ⟨same, (compiled_alike_of_same_but_values plain hostile same).resolve_right
    fun refused => refused.1 named⟩

end Query

end FluentSql
