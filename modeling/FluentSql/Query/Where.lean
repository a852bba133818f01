import FluentSql.Query.Fragment
import FluentSql.Query.Keyword

/-!
# Where clauses

A where list is a list of conditions and parenthesised groups, each with the
connective that ties it to the one before. Only the first of a list is
written without its connective, at every depth.
-/

set_option autoImplicit false

namespace FluentSql

inductive Condition where
  | compare (column operator : String) (value : Value)
  | oneOf (column : String) (values : List Value)
  | noneOf (column : String) (values : List Value)
  | isNull (column : String)
  | isNotNull (column : String)
  | between (column : String) (low high : Value)
  | like (column : String) (pattern : Value)

namespace Condition

def fragment : Condition → Fragment
  | compare column operator value => [.sql (column ++ " " ++ operator ++ " "), .hole value]
  | oneOf column values => .sql (column ++ " IN (") :: Fragment.holes values ++ [.sql ")"]
  | noneOf column values => .sql (column ++ " NOT IN (") :: Fragment.holes values ++ [.sql ")"]
  | isNull column => [.sql (column ++ " IS NULL")]
  | isNotNull column => [.sql (column ++ " IS NOT NULL")]
  | between column low high =>
    [.sql (column ++ " BETWEEN "), .hole low, .sql " AND ", .hole high]
  | like column pattern => [.sql (column ++ " LIKE "), .hole pattern]

def values : Condition → List Value
  | compare _ _ value => [value]
  | oneOf _ values | noneOf _ values => values
  | isNull _ | isNotNull _ => []
  | between _ low high => [low, high]
  | like _ pattern => [pattern]

theorem bindings_fragment (c : Condition) : c.fragment.bindings = c.values := by
  cases c <;>
    simp [fragment, values, Fragment.bindings, Fragment.bindings_append, Fragment.bindings_holes]

def betweenValues (column : String) : List Value → Except Fault Condition
  | [low, high] => .ok (between column low high)
  | values => .error (.query (.betweenArity column values))

end Condition

inductive Where where
  | leaf (connective : Connective) (condition : Condition)
  | group (connective : Connective) (members : List Where)

namespace Where

instance : Inhabited Where := ⟨group .and []⟩

def connective : Where → Connective
  | leaf connective _ => connective
  | group connective _ => connective

def connectiveText (w : Where) : String :=
  Keyword.word w.connective ++ " "

mutual

def body : Where → Fragment
  | leaf _ condition => condition.fragment
  | group _ members => .sql "(" :: (listed members ++ [.sql ")"])

/-- A where list: every clause but the first follows its connective. -/
def listed : List Where → Fragment
  | [] => []
  | w :: rest => body w ++ continued rest

def continued : List Where → Fragment
  | [] => []
  | w :: rest => .sql (" " ++ connectiveText w) :: (body w ++ continued rest)

end

def rendered (w : Where) : Fragment :=
  .sql w.connectiveText :: w.body

mutual

def values : Where → List Value
  | leaf _ condition => condition.values
  | group _ members => valuesAll members

def valuesAll : List Where → List Value
  | [] => []
  | w :: rest => values w ++ valuesAll rest

end

def clause : List Where → Fragment
  | [] => []
  | wheres => .sql "WHERE " :: listed wheres

end Where

end FluentSql
