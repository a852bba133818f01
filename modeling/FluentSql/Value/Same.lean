import FluentSql.Number.Exact
import FluentSql.Value

/-!
# The same value

Values are the same name when they are equal: numbers by what they count,
whatever their type, with truth values as one and zero; lists member by
member; maps key by key in any order. What is not a number is not even itself.
Only values that hold no others can be looked up.
-/

set_option autoImplicit false

namespace FluentSql.Value

def number? : Value → Option Exact
  | bool b => some (.ofInt (if b then 1 else 0))
  | int n => some (.ofInt n)
  | float x => Exact.ofBinary64? x
  | decimal d => Exact.ofDecimal? d
  | _ => none

mutual

def same : Value → Value → Bool
  | null, null => true
  | text s, text t => s == t
  | bytes xs, bytes ys => xs == ys
  | dateTime t, dateTime u => decide (t = u)
  | date d, date e => decide (d = e)
  | time t, time u => decide (t = u)
  | list xs, list ys => sameItems xs ys
  | map xs, map ys => xs.length == ys.length && sameEntries xs ys
  | v, w =>
    match v.number?, w.number? with
    | some x, some y => decide (x = y)
    | _, _ => false

def sameItems : List Value → List Value → Bool
  | [], [] => true
  | v :: vs, w :: ws => same v w && sameItems vs ws
  | _, _ => false

def sameEntries : List (String × Value) → List (String × Value) → Bool
  | [], _ => true
  | (key, v) :: rest, entries =>
    match entries.lookup key with
    | some w => same v w && sameEntries rest entries
    | none => false

end

instance : BEq Value := ⟨same⟩

theorem beq_text (v : Value) (s : String) : (v == text s) = true ↔ v = text s := by
  show same v (text s) = true ↔ v = text s
  cases v <;> simp [same, number?]

theorem text_beq_text (s t : String) : (text s == text t) = (s == t) := by
  show same (text s) (text t) = (s == t)
  simp [same]

/-- A value that holds others cannot be looked up. -/
def isKey : Value → Bool
  | list _ | map _ => false
  | _ => true

end FluentSql.Value
