import FluentSql.Dialect
import FluentSql.Scan.Placeholder

/-!
# SQL with its values written in

For reading only: each placeholder is replaced by the literal of the value
at its position. Placeholders beyond the last value stay.
-/

set_option autoImplicit false

namespace FluentSql

def LiteralStyle.inline (style : LiteralStyle) (sql : String) (values : List Value) : String :=
  Scan.fill (fun i => values[i]?.map style.value) sql

end FluentSql
