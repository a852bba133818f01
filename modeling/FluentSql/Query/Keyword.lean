import FluentSql.Fault
import FluentSql.Text.Blank
import FluentSql.Text.Casing

/-!
# Keywords

The four closed sets of words that calls choose from: kinds of statement and
join, directions and connectives. A word is read in any case and between
blanks; anything else is refused with the list of allowed words.
-/

set_option autoImplicit false

namespace FluentSql

class Keyword (α : Type) where
  title : String
  members : List α
  word : α → String

namespace Keyword

variable {α : Type} [Keyword α]

def find? (given : String) : Option α :=
  let written := Text.upper (Text.trim given)
  members.find? fun m => word m == written

def refusal (α : Type) [Keyword α] (given : Value) : Fault :=
  .query (.keyword (title α) given ((members : List α).map word))

def read : Value → Except Fault α
  | .text s =>
    match find? s with
    | some m => .ok m
    | none => .error (refusal α (.text s))
  | given => .error (refusal α given)

end Keyword

inductive StatementKind where
  | select
  | insert
  | update
  | delete
  deriving DecidableEq, Repr

instance : Keyword StatementKind where
  title := "QueryType"
  members := [.select, .insert, .update, .delete]
  word
    | .select => "SELECT"
    | .insert => "INSERT"
    | .update => "UPDATE"
    | .delete => "DELETE"

inductive JoinKind where
  | inner
  | left
  | right
  | cross
  deriving DecidableEq, Repr

instance : Keyword JoinKind where
  title := "JoinType"
  members := [.inner, .left, .right, .cross]
  word
    | .inner => "INNER"
    | .left => "LEFT"
    | .right => "RIGHT"
    | .cross => "CROSS"

inductive Direction where
  | ascending
  | descending
  deriving DecidableEq, Repr

instance : Keyword Direction where
  title := "OrderDirection"
  members := [.ascending, .descending]
  word
    | .ascending => "ASC"
    | .descending => "DESC"

inductive Connective where
  | and
  | or
  deriving DecidableEq, Repr

instance : Keyword Connective where
  title := "LogicalOperator"
  members := [.and, .or]
  word
    | .and => "AND"
    | .or => "OR"

def Connective.ofGiven (given : Option Value) : Except Fault Connective :=
  match given with
  | none => .ok .and
  | some v => Keyword.read v

end FluentSql
