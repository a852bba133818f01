import FluentSql.Query.Where
import FluentSql.Value.Reading

/-!
# Filters

A filter is a condition as it is asked for, with values still to be read. It
becomes a where clause once its connective and its values are in order.
-/

set_option autoImplicit false

namespace FluentSql

inductive Filter where
  | compare (column operator : String) (value : Value)
  | oneOf (column : String) (values : Value)
  | noneOf (column : String) (values : Value)
  | isNull (column : String)
  | isNotNull (column : String)
  | between (column : String) (values : Value)
  | like (column : String) (pattern : Value)

namespace Filter

/-- The text of what stands for a missing operator. The address in it is another one in each run,
and is shown as `#`. -/
def missingOperator : String := "<object object at #>"

/-- A comparison given one value alone, in the place of the operator, tests for equality. A value
given by its name without an operator is compared by what stands for the missing one. -/
def ofComparison (column : String) : Option Value → Option Value → Except Fault Filter
  | some operator, some value => .ok (compare column operator.plain value)
  | some value, none => .ok (compare column "=" value)
  | none, some value => .ok (compare column missingOperator value)
  | none, none => .error (.query (.needsValue column))

def condition : Filter → Except Fault Condition
  | compare column operator value => .ok (.compare column operator value)
  | oneOf column values => values.elements.map (.oneOf column)
  | noneOf column values => values.elements.map (.noneOf column)
  | isNull column => .ok (.isNull column)
  | isNotNull column => .ok (.isNotNull column)
  | between column values => values.elements.bind (Condition.betweenValues column)
  | like column pattern => .ok (.like column pattern)

def clause (f : Filter) (connective : Option Value) : Except Fault Where := do
  let connective ← Connective.ofGiven connective
  let condition ← f.condition
  .ok (.leaf connective condition)

/-- The filter with its values listed, so that a later reading of them cannot fail. -/
def listed : Filter → Except Fault Filter
  | oneOf column values => values.elements.map fun vs => oneOf column (.list vs)
  | noneOf column values => values.elements.map fun vs => noneOf column (.list vs)
  | between column values => values.elements.map fun vs => between column (.list vs)
  | f => .ok f

end Filter

end FluentSql
