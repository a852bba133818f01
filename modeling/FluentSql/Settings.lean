import FluentSql.Text.Percent
import FluentSql.Value.Reading

/-!
# Settings

Where the database is, which dialect is spoken and how much is reported, as
the environment has it or by default. The connection text is the configured
URL, or else is put together from the parts as they stand, with the password
escaped; only text and bytes can be escaped.
-/

set_option autoImplicit false

namespace FluentSql

structure DatabaseSettings where
  driver : Value := .text "mysql+pymysql"
  host : Value := .text "localhost"
  port : Value := .int 3306
  user : Value := .text "root"
  password : Value := .text ""
  database : Value := .text "app"
  url : Value := .null

namespace DatabaseSettings

def escapedPassword : Value → Except Fault String
  | .text s => .ok (Text.Percent.escape s)
  | .bytes bs => .ok (String.ofList (Text.Percent.escapeBytes bs))
  | _ => .error .wrongType

def assembled (s : DatabaseSettings) : Except Fault String :=
  (escapedPassword s.password).map fun password =>
    s.driver.plain ++ "://" ++ s.user.plain ++ ":" ++ password ++ "@" ++ s.host.plain ++ ":"
      ++ s.port.plain ++ "/" ++ s.database.plain

/-- A configured URL comes before the parts, unless it is empty. -/
def connectionText (s : DatabaseSettings) : Except Fault Value :=
  if s.url.truthy then .ok s.url else s.assembled.map .text

/-- Parts of a connection text that take the place of the configured ones, unless they are null. -/
structure Overrides where
  driver : Value := .null
  host : Value := .null
  port : Value := .null
  user : Value := .null
  password : Value := .null
  database : Value := .null

def Overrides.isEmpty (o : Overrides) : Bool :=
  [o.driver, o.host, o.port, o.user, o.password, o.database].all Value.isNull

def either (given configured : Value) : Value :=
  if given.isNull then configured else given

def overridden (s : DatabaseSettings) (o : Overrides) : DatabaseSettings :=
  { s with
    driver := either o.driver s.driver
    host := either o.host s.host
    port := either o.port s.port
    user := either o.user s.user
    password := either o.password s.password
    database := either o.database s.database }

/-- With no part given this is the configured text; one given part sets the URL aside. -/
def connectionTextWith (s : DatabaseSettings) (o : Overrides) : Except Fault Value :=
  if o.isEmpty then s.connectionText else (s.overridden o).assembled.map .text

theorem connectionTextWith_none (s : DatabaseSettings) :
    s.connectionTextWith {} = s.connectionText := by
  simp [connectionTextWith, Overrides.isEmpty, Value.isNull]

end DatabaseSettings

structure Settings where
  database : DatabaseSettings := {}
  dialect : String := "mysql"
  logsQueries : Bool := false
  logLevel : String := "INFO"

namespace Settings

abbrev Environment := List (String × Value)

def isOn (text : String) : Bool :=
  ["1", "true", "yes", "on"].contains (Text.lower (Text.trim text))

/-- A name that is not set leaves the default; an empty URL counts as none. -/
def ofEnvironment (env : Environment) : Except Fault Settings := do
  let texts ← env.mapM fun (name, v) => v.systemText.map (name, ·)
  let get (name default : String) : String := (texts.lookup name).getD default
  let part (name default : String) : Value := .text (get name default)
  let port ← (part "DB_PORT" "3306").toInteger
  .ok {
    database := {
      driver := part "DB_DRIVER" "mysql+pymysql"
      host := part "DB_HOST" "localhost"
      port := .int port
      user := part "DB_USER" "root"
      password := part "DB_PASSWORD" ""
      database := part "DB_NAME" "app"
      url := ((Text.nonEmpty (texts.lookup "DATABASE_URL")).map Value.text).getD .null }
    dialect := Text.lower (get "SQL_DIALECT" "mysql")
    logsQueries := ((texts.lookup "SQL_LOG_QUERIES").map isOn).getD false
    logLevel := Text.upper (get "LOG_LEVEL" "INFO") }

end Settings

end FluentSql
