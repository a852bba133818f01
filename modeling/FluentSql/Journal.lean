/-!
# The journal

What the program reports while it works: who reports, at which level, and
the message.
-/

set_option autoImplicit false

namespace FluentSql.Journal

inductive Level where
  | debug
  | info
  | warning
  | error
  deriving DecidableEq, Repr

def Level.name : Level → String
  | debug => "DEBUG"
  | info => "INFO"
  | warning => "WARNING"
  | error => "ERROR"

inductive Source where
  | selecting
  | writing
  | defining
  | connection
  | schema
  | catalog
  | availability
  deriving DecidableEq, Repr

def Source.name : Source → String
  | selecting => "sql.query_builder"
  | writing => "sql.dml"
  | defining => "sql.ddl"
  | connection => "database.connection"
  | schema => "database.schema"
  | catalog => "database.info"
  | availability => "utils.database_utils"

structure Entry where
  source : Source
  level : Level
  message : String
  deriving DecidableEq, Repr

end FluentSql.Journal
