import FluentSql.Query.Keyword

/-!
# Joins, orders and pages

The clauses of a query that bind no values. Each is plain text.
-/

set_option autoImplicit false

namespace FluentSql

structure JoinCondition where
  connective : Connective
  left : String
  operator : String
  right : String

structure Join where
  kind : JoinKind
  table : String
  conditions : List JoinCondition := []

namespace Join

def ofGiven (kind : Option Value) (table : String) : Except Fault Join :=
  match kind with
  | none => .ok { kind := .inner, table := table }
  | some v => (Keyword.read v).map fun kind => { kind := kind, table := table }

def conditionText (c : JoinCondition) : String :=
  c.left ++ " " ++ c.operator ++ " " ++ c.right

def continued : List JoinCondition → String
  | [] => ""
  | c :: rest => " " ++ Keyword.word c.connective ++ " " ++ conditionText c ++ continued rest

def onText : List JoinCondition → String
  | [] => ""
  | c :: rest => " ON " ++ conditionText c ++ continued rest

def sql (j : Join) : String :=
  Keyword.word j.kind ++ " JOIN " ++ j.table ++ onText j.conditions

inductive Call where
  | on (left operator right : String) (connective : Option Value)
  | sql
  | refused (fault : Fault)

def perform (j : Join) : Call → Except Fault Join
  | .on left operator right given =>
    (Connective.ofGiven given).map fun connective =>
      { j with conditions := j.conditions ++ [⟨connective, left, operator, right⟩] }
  | .sql => .ok j
  | .refused fault => .error fault

def performAll (j : Join) : List Call → Except Fault Join
  | [] => .ok j
  | call :: rest => (j.perform call).bind fun j => j.performAll rest

end Join

structure Order where
  column : String
  direction : Direction

namespace Order

def ofGiven (column : String) (direction : Option Value) : Except Fault Order :=
  match direction with
  | none => .ok ⟨column, .ascending⟩
  | some v => (Keyword.read v).map fun direction => ⟨column, direction⟩

def sql (o : Order) : String :=
  o.column ++ " " ++ Keyword.word o.direction

def clause : List Order → String
  | [] => ""
  | orders => "ORDER BY " ++ ", ".intercalate (orders.map sql)

end Order

structure Page where
  limit : Option Value := none
  offset : Option Value := none

namespace Page

/-- A null is no bound. -/
def bound (v : Value) : Option Value :=
  if v.isNull then none else some v

def parts (p : Page) : List String :=
  (p.limit.map fun v => "LIMIT " ++ v.plain).toList
    ++ (p.offset.map fun v => "OFFSET " ++ v.plain).toList

def clause (p : Page) : String :=
  " ".intercalate p.parts

end Page

end FluentSql
