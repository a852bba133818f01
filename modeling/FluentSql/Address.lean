import FluentSql.Settings
import FluentSql.Text.Word

/-!
# Addresses

The address of a database, as its parts: the driver, who connects, where to,
and which database. An address is read from a URL, in which the names and the
password are escaped, or taken from the settings, whose parts then have to be
text. The pool is set up for every database that is not a file.
-/

set_option autoImplicit false

namespace FluentSql

structure Address where
  driver : String
  user : Option String := none
  password : Value := .null
  host : Option String := none
  port : Option Int := none
  database : Option String := none

namespace Address

def cut (mark : Char) (cs : List Char) : List Char × Option (List Char) :=
  match cs.dropWhile (· != mark) with
  | [] => (cs, none)
  | _ :: after => (cs.takeWhile (· != mark), some after)

def nonEmpty? (cs : List Char) : Option String :=
  if cs.isEmpty then none else some (String.ofList cs)

def scheme? (cs : List Char) : Option (String × List Char) :=
  let isName (c : Char) : Bool := Text.isWord c || c = '+'
  match cs.takeWhile isName, cs.dropWhile isName with
  | _ :: _, ':' :: '/' :: '/' :: rest => some (String.ofList (cs.takeWhile isName), rest)
  | _, _ => none

def credentials (cs : List Char) : Option (List Char × Option (List Char)) × List Char :=
  let isOpen (c : Char) : Bool := c != ':' && c != '/'
  let before := cs.takeWhile isOpen
  let withoutPassword : Option (List Char × Option (List Char)) × List Char :=
    match cut '@' before.reverse with
    | (_, none) => (none, cs)
    | (host, some user) => (some (user.reverse, none), cs.drop (before.length - host.length))
  match cs.dropWhile isOpen with
  | ':' :: rest =>
    match cut '@' rest with
    | (password, some after) => (some (before, some password), after)
    | (_, none) => withoutPassword
  | _ => withoutPassword

/-- A host in brackets, which may hold colons, and what follows the last closing bracket. -/
def bracketed? : List Char → Option (List Char × List Char)
  | '[' :: inner =>
    match cut ']' inner.reverse with
    | (_, none) | (_, some []) => none
    | (after, some host) => some (host.reverse, after.reverse)
  | _ => none

def hostOf (place : List Char) : List Char × List Char :=
  (bracketed? place).getD (place.span (· != ':'))

def portPart (given : Value) : Except Fault (Option Int) :=
  if given.isNull then .ok none else given.toInteger.map some

def portText : List Char → Value
  | ':' :: port => .text (String.ofList port)
  | _ => .null

def endsPlace : List Char → Bool
  | [] | ':' :: _ => true
  | _ => false

/-- Reads a URL, up to a question mark. The user, the password and the database are unescaped. -/
def ofUrl (url : String) : Except Fault Address :=
  match scheme? url.toList with
  | none => .error (.address (.text url))
  | some (driver, rest) => do
    let (who, rest) := credentials rest
    let (place, database) := cut '/' (cut '?' rest).1
    let (host, after) := hostOf place
    let port ← portPart (portText after)
    let unescaped (cs : List Char) : String := Text.Percent.unescape (String.ofList cs)
    .ok {
      driver := driver
      user := who.map fun w => unescaped w.1
      password := ((who.bind Prod.snd).map fun p => .text (unescaped p)).getD .null
      host := nonEmpty? host
      port := port
      database := (database.filter fun _ => endsPlace after).map unescaped }

def textPart : Value → Except Fault (Option String)
  | .null => .ok none
  | .text s => .ok (some s)
  | _ => .error .wrongType

def ofSettings (s : DatabaseSettings) : Except Fault Address := do
  let driver ← match s.driver with
    | .text driver => .ok driver
    | _ => .error .wrongType
  let user ← textPart s.user
  let host ← textPart s.host
  let port ← portPart s.port
  let database ← textPart s.database
  .ok {
    driver := driver, user := user, password := s.password, host := host, port := port
    database := database }

/-- The given URL, then the configured one; the parts of the settings if neither is there. -/
def resolve (s : DatabaseSettings) (given : Value) : Except Fault Address :=
  if given.isNull && s.url.isNull then ofSettings s
  else
    match if given.truthy then given else s.url with
    | .text url => ofUrl url
    | other => .error (.address other)

def backend (a : Address) : String :=
  String.ofList (a.driver.toList.takeWhile (· != '+'))

end Address

structure Pool where
  size : Value := .int 5
  overflow : Value := .int 10

structure Engine where
  address : Address
  echo : Value
  pool : Option Pool

def Engine.make (s : DatabaseSettings) (url echo : Value) (pool : Pool) :
    Except Fault Engine := do
  let address ← Address.resolve s url
  .ok ⟨address, echo, if address.backend = "sqlite" then none else some pool⟩

end FluentSql
