import RigScript.Decimal.Binary64
import RigScript.NameMap
import RigScript.Toml.DateTime

/-! ## TOML values -/

namespace RigScript.Toml

/-- A value of a settings file. The keys of a table differ, and stand in the order in which they
were written or in the order of the names. -/
inductive Value where
  | str (s : String)
  | int (n : Int)
  | float (x : Binary64)
  | bool (b : Bool)
  | dateTime (d : DateTime)
  | arr (items : List Value)
  | table (fields : List (String × Value))
  deriving Repr

namespace Value

/-- A table from its fields in any order. -/
def ofFields (fields : List (String × Value)) : Value := .table (NameMap.ofList fields).entries

/-- The name under which a date or a time appears where only a table is known. -/
def dateTimeKey : String := "$__toml_private_datetime"

def dateTime? : Value → Option Value
  | .str s => (DateTime.ofText? s).map .dateTime
  | _ => none

mutual

/-- A value as written in the form in which it is kept: tables list their keys in order, and a
table whose first key is the name of a date or a time is that date or time. There is no such form
if the text of the date is none. -/
def settle? : Value → Option Value
  | .arr items => (settleItems? items).map .arr
  | .table fields =>
    match fields.head? with
    | none => some (.table [])
    | some (k, v) =>
      if k = dateTimeKey then dateTime? v else (settleFields? fields).map ofFields
  | v => some v

def settleItems? : List Value → Option (List Value)
  | [] => some []
  | v :: vs => do return (← settle? v) :: (← settleItems? vs)

def settleFields? : List (String × Value) → Option (List (String × Value))
  | [] => some []
  | (k, v) :: fs => do return (k, ← settle? v) :: (← settleFields? fs)

end

def isTable : Value → Bool
  | .table _ => true
  | _ => false

def maxInt : Int := 0x7FFFFFFFFFFFFFFF

def minInt : Int := -0x8000000000000000

/-- An integer, unless it takes more than 64 bits. -/
def ofInt? (n : Int) : Option Value :=
  if minInt ≤ n && n ≤ maxInt then some (.int n) else none

mutual

def same : Value → Value → Bool
  | .str s, .str t => s == t
  | .int n, .int m => n == m
  | .float x, .float y => x == y
  | .bool b, .bool c => b == c
  | .dateTime d, .dateTime e => d == e
  | .arr l, .arr m => sameItems l m
  | .table f, .table g => sameFields f g
  | _, _ => false

def sameItems : List Value → List Value → Bool
  | [], [] => true
  | v :: l, w :: m => same v w && sameItems l m
  | _, _ => false

def sameFields : List (String × Value) → List (String × Value) → Bool
  | [], [] => true
  | (k, v) :: f, (j, w) :: g => k == j && same v w && sameFields f g
  | _, _ => false

end

instance : BEq Value := ⟨same⟩

end Value

end RigScript.Toml
