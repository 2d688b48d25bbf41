/-! ## Decimal numbers

Numbers in scripts are written in ASCII digits, with an optional plus sign, and have an upper
bound: a number that is not below it is refused, never cut. -/

namespace RigScript.Text

def isDigit (c : Char) : Bool := '0' ≤ c && c ≤ '9'

def digitValue (c : Char) : Nat := c.toNat - '0'.toNat

/-- The number that a row of digits denotes. -/
def numeral (s : List Char) : Nat := s.foldl (fun n c => 10 * n + digitValue c) 0

/-- Read a number below `bound`: an optional `+` and at least one digit. -/
def decimal? (bound : Nat) (s : List Char) : Option Nat :=
  let digits := match s with
    | '+' :: r => r
    | _ => s
  if !digits.isEmpty && digits.all isDigit && numeral digits < bound then
    some (numeral digits)
  else none

/-- The number, set against the right edge of a column. -/
def alignRight (width n : Nat) : String :=
  let s := toString n
  "".pushn ' ' (width - s.length) ++ s

end RigScript.Text
