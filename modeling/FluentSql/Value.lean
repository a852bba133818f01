import FluentSql.Calendar
import FluentSql.Number.Binary64
import FluentSql.Number.Decimal
import FluentSql.Text.Quoted

/-!
# Values

The values that queries bind, columns default to and calls take. A map keeps
its entries in order. Every value has a plain text, as it is pasted into SQL,
and a shown text, as messages and nested values write it.
-/

set_option autoImplicit false

namespace FluentSql

inductive Value where
  | null
  | bool (b : Bool)
  | int (n : Int)
  | float (x : Binary64)
  | decimal (d : Decimal)
  | text (s : String)
  | bytes (bs : List UInt8)
  | dateTime (t : DateTime)
  | date (d : Date)
  | time (t : TimeOfDay)
  | list (items : List Value)
  | map (entries : List (String × Value))

namespace Value

instance : Inhabited Value := ⟨null⟩

def intText (n : Int) : String :=
  String.ofList (Text.integer n)

mutual

def shown : Value → String
  | null => "None"
  | bool true => "True"
  | bool false => "False"
  | int n => intText n
  | float x => x.text
  | decimal d => "Decimal('" ++ d.text ++ "')"
  | text s => Text.quoted s
  | bytes bs => Text.quotedBytes bs
  | dateTime t => t.shown
  | date d => d.shown
  | time t => t.shown
  | list items => "[" ++ ", ".intercalate (shownItems items) ++ "]"
  | map entries => "\x7b" ++ ", ".intercalate (shownEntries entries) ++ "\x7d"

def shownItems : List Value → List String
  | [] => []
  | v :: rest => v.shown :: shownItems rest

def shownEntries : List (String × Value) → List String
  | [] => []
  | (key, v) :: rest => (Text.quoted key ++ ": " ++ v.shown) :: shownEntries rest

end

/-- Text stands as it is, numbers and dates in their own notation, all else as shown. -/
def plain : Value → String
  | text s => s
  | decimal d => d.text
  | dateTime t => t.iso
  | date d => d.iso
  | time t => t.iso
  | v => v.shown

def truthy : Value → Bool
  | null => false
  | bool b => b
  | int n => n != 0
  | float x => !x.isZero
  | decimal d => !d.isZero
  | text s => !s.isEmpty
  | bytes bs => !bs.isEmpty
  | list items => !items.isEmpty
  | map entries => !entries.isEmpty
  | _ => true

def isNull : Value → Bool
  | null => true
  | _ => false

def count? : Value → Option Int
  | bool b => some (if b then 1 else 0)
  | int n => some n
  | _ => none

def elements? : Value → Option (List Value)
  | text s => some (s.toList.map fun c => text (String.singleton c))
  | bytes bs => some (bs.map fun b => int b.toNat)
  | list items => some items
  | map entries => some (entries.map fun entry => text entry.1)
  | _ => none

def texts? : List Value → Option (List String)
  | [] => some []
  | text s :: rest => (texts? rest).map (s :: ·)
  | _ :: _ => none

theorem texts?_map_text (names : List String) : texts? (names.map text) = some names := by
  induction names with
  | nil => rfl
  | cons name names ih => simp [texts?, ih]

end Value

end FluentSql
