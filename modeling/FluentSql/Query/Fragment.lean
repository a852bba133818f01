import FluentSql.Dialect

/-!
# Statement fragments

A fragment is SQL with holes for values. It is read in three ways: as text
with a placeholder in each hole, as the list of its values, and as text with
each value's literal in its own hole.
-/

set_option autoImplicit false

namespace FluentSql

inductive Piece where
  | sql (text : String)
  | hole (value : Value)

abbrev Fragment := List Piece

namespace Fragment

def ofText (text : String) : Fragment :=
  if text.isEmpty then [] else [.sql text]

def sql : Fragment → String
  | [] => ""
  | .sql text :: rest => text ++ sql rest
  | .hole _ :: rest => "?" ++ sql rest

def bindings : Fragment → List Value
  | [] => []
  | .sql _ :: rest => bindings rest
  | .hole v :: rest => v :: bindings rest

def inlined (style : LiteralStyle) : Fragment → String
  | [] => ""
  | .sql text :: rest => text ++ inlined style rest
  | .hole v :: rest => style.value v ++ inlined style rest

def joined (separator : String) : List Fragment → Fragment
  | [] => []
  | [f] => f
  | f :: g :: rest => f ++ .sql separator :: joined separator (g :: rest)

/-- Fragments parted by single spaces, without the empty ones. -/
def spaced (fs : List Fragment) : Fragment :=
  joined " " (fs.filter fun f => !f.isEmpty)

def holes (values : List Value) : Fragment :=
  joined ", " (values.map fun v => [.hole v])

theorem sql_append (f g : Fragment) : sql (f ++ g) = sql f ++ sql g := by
  induction f with
  | nil => simp [sql]
  | cons p f ih => cases p <;> simp [sql, ih, String.append_assoc]

theorem bindings_append (f g : Fragment) : bindings (f ++ g) = bindings f ++ bindings g := by
  induction f with
  | nil => rfl
  | cons p f ih => cases p <;> simp [bindings, ih]

theorem inlined_append (style : LiteralStyle) (f g : Fragment) :
    inlined style (f ++ g) = inlined style f ++ inlined style g := by
  induction f with
  | nil => simp [inlined]
  | cons p f ih => cases p <;> simp [inlined, ih, String.append_assoc]

theorem bindings_joined (separator : String) (fs : List Fragment) :
    bindings (joined separator fs) = fs.flatMap bindings := by
  induction fs with
  | nil => rfl
  | cons f rest ih =>
    cases rest with
    | nil => simp [joined]
    | cons g rest =>
      simp only [joined, bindings_append, bindings, ih, List.flatMap_cons]

theorem bindings_holes (values : List Value) : bindings (holes values) = values := by
  rw [holes, bindings_joined]
  induction values with
  | nil => rfl
  | cons v values ih => simp [bindings, ih]

end Fragment

end FluentSql
