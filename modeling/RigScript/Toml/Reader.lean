import RigScript.Text.Decimal

/-! ## Reading from the front of a text

A reader takes what it knows from the front of a text and hands back the rest, or fails. Here
are the parts between the values of a settings file: blanks, comments and line ends. -/

namespace RigScript.Toml

/-- What a reader makes of the front of a text, and the rest. -/
abbrev Reader (α : Type) := List Char → Option (α × List Char)

def mark? (c : Char) : List Char → Option (List Char)
  | [] => none
  | d :: r => if c = d then some r else none

def isSpace (c : Char) : Bool := c == ' ' || c == '\t'

def skipSpaces (s : List Char) : List Char := s.dropWhile isSpace

def isCommentChar (c : Char) : Bool :=
  c == '\t' || (0x20 ≤ c.toNat && c.toNat ≤ 0x7E) || 0x80 ≤ c.toNat

/-- The text after the comment at the front, if there is one. -/
def skipComment : List Char → List Char
  | '#' :: r => r.dropWhile isCommentChar
  | s => s

def lineEnd? : List Char → Option (List Char)
  | '\n' :: r => some r
  | '\r' :: '\n' :: r => some r
  | _ => none

/-- The text after blanks, a comment and a line end; the end of the text ends a line too. -/
def restOfLine? (s : List Char) : Option (List Char) :=
  match skipComment (skipSpaces s) with
  | [] => some []
  | s => lineEnd? s

/-- The text after blanks, comments and line ends in any number; `n` bounds the number of line
ends. A comment has to be followed by a line end. -/
def skipLinesIn : Nat → List Char → List Char
  | 0, s => s
  | n + 1, s =>
    match lineEnd? (skipComment (skipSpaces s)) with
    | some r => skipLinesIn n r
    | none => skipSpaces s

def skipLines (s : List Char) : List Char := skipLinesIn s.length s

end RigScript.Toml
