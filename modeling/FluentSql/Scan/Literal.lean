/-!
# Reading SQL past its literals

A text is read one character at a time. Three kinds of quotes open a literal
that the same quote closes, so a doubled quote closes and opens again; a
backslash takes the next character with it, in a literal or not. Every
character is marked as plain or as part of a literal or escape.
-/

set_option autoImplicit false

namespace FluentSql.Scan

inductive Quote where
  | single
  | double
  | back
  deriving DecidableEq, Repr

def Quote.char : Quote → Char
  | single => '\''
  | double => '"'
  | back => Char.ofNat 0x60

def Quote.ofChar? (c : Char) : Option Quote :=
  if c = Quote.char .single then some .single
  else if c = Quote.char .double then some .double
  else if c = Quote.char .back then some .back
  else none

theorem Quote.ofChar?_char (q : Quote) : Quote.ofChar? q.char = some q := by
  cases q <;> decide

structure State where
  quote : Option Quote
  escaped : Bool
  deriving DecidableEq, Repr

def State.top : State := ⟨none, false⟩

structure Mark where
  char : Char
  /-- The character belongs to a literal or an escape. -/
  inside : Bool
  deriving DecidableEq, Repr

def Mark.isPlain (m : Mark) (c : Char) : Bool :=
  decide (m.char = c) && !m.inside

def State.next (s : State) (c : Char) : State :=
  if s.escaped then ⟨s.quote, false⟩
  else if c = '\\' then ⟨s.quote, true⟩
  else
    match s.quote with
    | none => ⟨Quote.ofChar? c, false⟩
    | some q => if c = q.char then .top else s

def State.mark (s : State) (c : Char) : Mark :=
  let special := s.escaped || decide (c = '\\') || s.quote.isSome || (Quote.ofChar? c).isSome
  ⟨c, special⟩

def State.after (s : State) : List Char → State
  | [] => s
  | c :: cs => (s.next c).after cs

def State.marks (s : State) : List Char → List Mark
  | [] => []
  | c :: cs => s.mark c :: (s.next c).marks cs

theorem State.after_append (s : State) (xs ys : List Char) :
    s.after (xs ++ ys) = (s.after xs).after ys := by
  induction xs generalizing s with
  | nil => rfl
  | cons x xs ih => exact ih _

theorem State.marks_append (s : State) (xs ys : List Char) :
    s.marks (xs ++ ys) = s.marks xs ++ (s.after xs).marks ys := by
  induction xs generalizing s with
  | nil => rfl
  | cons x xs ih => simp [State.marks, State.after, ih]

theorem State.map_char_marks (s : State) (cs : List Char) :
    (s.marks cs).map Mark.char = cs := by
  induction cs generalizing s with
  | nil => rfl
  | cons c cs ih => simp [State.marks, State.mark, ih]

def marks (cs : List Char) : List Mark :=
  State.top.marks cs

/-- A text that starts and ends at the top level. -/
def IsClosed (cs : List Char) : Prop :=
  State.top.after cs = State.top

instance (cs : List Char) : Decidable (IsClosed cs) :=
  inferInstanceAs (Decidable (State.top.after cs = State.top))

theorem IsClosed.append {xs ys : List Char} (hx : IsClosed xs) (hy : IsClosed ys) :
    IsClosed (xs ++ ys) := by
  unfold IsClosed at *
  rw [State.after_append, hx, hy]

theorem marks_append {xs : List Char} (h : IsClosed xs) (ys : List Char) :
    marks (xs ++ ys) = marks xs ++ marks ys := by
  rw [marks, State.marks_append, h]
  rfl

end FluentSql.Scan
