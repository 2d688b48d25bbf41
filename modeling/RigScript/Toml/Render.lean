import RigScript.Toml.Document

/-! ## Writing values and documents

A string is written in the first of these forms that can hold it without an escape: between
quotes, between apostrophes, between three quotes, between three apostrophes. If none can, it is
written with escapes. A document has a section for every table that holds values of its own or
nothing at all, and the values of a section stand before the sections inside it. -/

namespace RigScript.Toml

/-! ## Strings -/

/-- The longest run of a mark. -/
def longestRun (mark : Char) (s : List Char) : Nat :=
  (s.foldl (fun (best, here) c =>
    let here := if c == mark then here + 1 else 0
    (max best here, here)) (0, 0)).1

/-- A control character that only an escape can write. -/
def needsEscape (c : Char) : Bool :=
  (c.toNat < 0x20 && c != '\t' && c != '\n') || c.toNat == 0x7F

def hexDigit (n : Nat) : Char := if n < 10 then Char.ofNat (48 + n) else Char.ofNat (55 + n)

def escaped (c : Char) : List Char :=
  if c = '"' then ['\\', '"']
  else if c = '\\' then ['\\', '\\']
  else if c = '\t' then ['\\', 't']
  else if c = '\n' then ['\\', 'n']
  else if c = '\r' then ['\\', 'r']
  else if c.toNat = 8 then ['\\', 'b']
  else if c.toNat = 12 then ['\\', 'f']
  else if needsEscape c then
    ['\\', 'u', '0', '0', hexDigit (c.toNat / 16), hexDigit (c.toNat % 16)]
  else [c]

/-- Characters between three quotes, where `run` quotes stand in front: line ends stay, and only
every third quote in a row has to be escaped. -/
def escapedLong : Nat → List Char → List Char
  | _, [] => []
  | run, c :: r =>
    if c = '"' then
      if run = 2 then '\\' :: '"' :: escapedLong 0 r else '"' :: escapedLong (run + 1) r
    else (if c = '\n' then ['\n'] else escaped c) ++ escapedLong 0 r

def basic (s : List Char) : List Char := '"' :: s.flatMap escaped ++ ['"']

def literal (s : List Char) : List Char := '\'' :: s ++ ['\'']

/-- A string over several lines begins on a line of its own. -/
def lead (s : List Char) : List Char := if s.contains '\n' then ['\n'] else []

def longBasic (s : List Char) : List Char :=
  ['"', '"', '"'] ++ lead s ++ escapedLong 0 s ++ ['"', '"', '"']

def longLiteral (s : List Char) : List Char :=
  ['\'', '\'', '\''] ++ lead s ++ s ++ ['\'', '\'', '\'']

/-- A string in the form that suits it. -/
def stringText (text : String) : String :=
  let s := text.toList
  let control := s.any needsEscape
  let backslash := s.contains '\\'
  let newline := s.contains '\n'
  let quotes := longestRun '"' s
  let apostrophes := longestRun '\'' s
  String.ofList <|
    if !control && !backslash && !newline && quotes = 0 then basic s
    else if !control && !newline && apostrophes = 0 then literal s
    else if !control && !backslash && quotes ≤ 2 then longBasic s
    else if !control && apostrophes ≤ 2 then longLiteral s
    else if newline then longBasic s
    else basic s

/-- A part of a key: bare if it can be, else a string on one line. -/
def keyText (key : String) : String :=
  let s := key.toList
  let plain := !s.any needsEscape && !s.contains '\n'
  if !s.isEmpty && s.all isBareChar then key
  else String.ofList <|
    if plain && !s.contains '\\' && !s.contains '"' then basic s
    else if plain && !s.contains '\'' then literal s
    else basic s

/-! ## Values -/

namespace Value

mutual

/-- A value as one text. If `tall`, the items of an array with more than one stand on lines of
their own. -/
def render (tall : Bool) : Value → String
  | .str s => stringText s
  | .int n => toString n
  | .float x => x.render
  | .bool true => "true"
  | .bool false => "false"
  | .dateTime d => d.render
  | .arr [] => "[]"
  | .arr [v] => "[" ++ render tall v ++ "]"
  | .arr (v :: w :: vs) =>
    if tall then "[" ++ renderTall tall (v :: w :: vs) ++ "\n]"
    else "[" ++ render tall v ++ renderItems tall (w :: vs) ++ "]"
  | .table [] => "\x7b\x7d"
  | .table ((k, v) :: fs) =>
    "\x7b " ++ keyText k ++ " = " ++ render tall v ++ renderFields tall fs ++ " \x7d"

/-- The items after the first, on the same line. -/
def renderItems (tall : Bool) : List Value → String
  | [] => ""
  | v :: vs => ", " ++ render tall v ++ renderItems tall vs

def renderTall (tall : Bool) : List Value → String
  | [] => ""
  | v :: vs => "\n    " ++ render tall v ++ "," ++ renderTall tall vs

def renderFields (tall : Bool) : List (String × Value) → String
  | [] => ""
  | (k, v) :: fs => ", " ++ keyText k ++ " = " ++ render tall v ++ renderFields tall fs

end

/-- A value as the text that is handed to a plugin: a string is its own text, and a date or a
time is wrapped. -/
def flatten : Value → String
  | .str s => s
  | .dateTime d => (Value.table [(dateTimeKey, .str d.render)]).render false
  | v => v.render false

def hasSections : Value → Bool
  | .table _ => true
  | .arr items => !items.isEmpty && items.all isTable
  | _ => false

/-! ## Documents -/

def pathText (path : List String) : String := ".".intercalate (path.map keyText)

/-- The lines of the values that stand in a section itself. -/
def ownLines (fields : List (String × Value)) : List String :=
  (fields.filter (!·.2.hasSections)).map fun (k, v) =>
    keyText k ++ " = " ++ render true v ++ "\n"

/-- A section without the sections inside it; there is none if these are all that it holds. -/
def ownSection (path : List String) (fields : List (String × Value)) : List String :=
  let lines := ownLines fields
  if lines.isEmpty && !fields.isEmpty then []
  else ["[" ++ pathText path ++ "]\n" ++ String.join lines]

mutual

def sections (path : List String) : Value → List String
  | .table fields => ownSection path fields ++ fieldSections path fields
  | .arr items => if (Value.arr items).hasSections then itemSections path items else []
  | _ => []

def fieldSections (path : List String) : List (String × Value) → List String
  | [] => []
  | (k, v) :: fs => sections (path ++ [k]) v ++ fieldSections path fs

def itemSections (path : List String) : List Value → List String
  | [] => []
  | .table fields :: vs =>
    ("[[" ++ pathText path ++ "]]\n" ++ String.join (ownLines fields)) ::
      (fieldSections path fields ++ itemSections path vs)
  | _ :: vs => itemSections path vs

end

def document (fields : List (String × Value)) : String :=
  "\n".intercalate (fieldSections [] fields)

end Value

end RigScript.Toml
