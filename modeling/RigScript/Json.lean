/-! ## JSON documents

A value with ordered fields, and its layouts: on one line, or over several with two blanks of
indent for each level, one item or field on a line, `[]` and `{}` when empty. -/

namespace RigScript

/-- A JSON value. Fields keep the order in which they are given. -/
inductive Json where
  | null
  | bool (b : Bool)
  | num (n : Int)
  | str (s : String)
  | arr (items : List Json)
  | obj (fields : List (String × Json))

namespace Json

def ofOption (f : α → Json) : Option α → Json
  | none => .null
  | some a => f a

def strings (l : List String) : Json := .arr (l.map .str)

/-! ## Strings

Quotes, backslashes and control characters are escaped; every other character stands for
itself. -/

def hexDigit (n : Nat) : Char := if n < 10 then Char.ofNat (48 + n) else Char.ofNat (87 + n)

def escape (c : Char) : List Char :=
  if c = '"' then ['\\', '"']
  else if c = '\\' then ['\\', '\\']
  else if c = '\n' then ['\\', 'n']
  else if c = '\r' then ['\\', 'r']
  else if c = '\t' then ['\\', 't']
  else if c.toNat = 8 then ['\\', 'b']
  else if c.toNat = 12 then ['\\', 'f']
  else if c.toNat < 32 then
    ['\\', 'u', '0', '0', hexDigit (c.toNat / 16), hexDigit (c.toNat % 16)]
  else [c]

def quote (s : String) : String := "\"" ++ String.ofList (s.toList.flatMap escape) ++ "\""

/-! ## Layout -/

/-- A fresh line at the given depth. -/
def newline (depth : Nat) : String := "\n".pushn ' ' (2 * depth)

mutual

/-- The document, of which the first line stands at `depth` already. -/
def layout (depth : Nat) : Json → String
  | .null => "null"
  | .bool true => "true"
  | .bool false => "false"
  | .num n => toString n
  | .str s => quote s
  | .arr [] => "[]"
  | .arr (v :: vs) =>
    "[" ++ newline (depth + 1) ++ layout (depth + 1) v ++ layoutItems (depth + 1) vs ++
      newline depth ++ "]"
  | .obj [] => "\x7b\x7d"
  | .obj ((k, v) :: fs) =>
    "\x7b" ++ newline (depth + 1) ++ quote k ++ ": " ++ layout (depth + 1) v ++
      layoutFields (depth + 1) fs ++ newline depth ++ "\x7d"

/-- The items after the first. -/
def layoutItems (depth : Nat) : List Json → String
  | [] => ""
  | v :: vs => "," ++ newline depth ++ layout depth v ++ layoutItems depth vs

/-- The fields after the first. -/
def layoutFields (depth : Nat) : List (String × Json) → String
  | [] => ""
  | (k, v) :: fs =>
    "," ++ newline depth ++ quote k ++ ": " ++ layout depth v ++ layoutFields depth fs

end

/-- The document over several lines. -/
def pretty (v : Json) : String := v.layout 0

mutual

/-- The document on one line, without blanks. -/
def compact : Json → String
  | .null => "null"
  | .bool true => "true"
  | .bool false => "false"
  | .num n => toString n
  | .str s => quote s
  | .arr l => "[" ++ ",".intercalate (compactItems l) ++ "]"
  | .obj fields => "\x7b" ++ ",".intercalate (compactFields fields) ++ "\x7d"

def compactItems : List Json → List String
  | [] => []
  | v :: vs => compact v :: compactItems vs

def compactFields : List (String × Json) → List String
  | [] => []
  | (k, v) :: fs => (quote k ++ ":" ++ compact v) :: compactFields fs

end

end Json

end RigScript
