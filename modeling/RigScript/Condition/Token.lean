import RigScript.Text.Blank

/-! ## Tokens of a condition

A condition is written with two values, three operators and parentheses. The operators have a
word and a symbol each: `AND` and `&&`, `OR` and `||`, `NOT` and `!`. Blanks may stand between
tokens, and have to between two words. -/

namespace RigScript

/-- Why a condition has no value. -/
inductive ConditionError where
  | empty
  /-- A token, or a word that is none, which cannot stand where it does. -/
  | unexpectedToken (text : String)
  | unexpectedEnd
  deriving DecidableEq, Repr

def ConditionError.message : ConditionError → String
  | .empty => "empty condition"
  | .unexpectedToken text => "unexpected token [" ++ text ++ "]"
  | .unexpectedEnd => "unexpected end of condition"

namespace Condition

inductive Token where
  | value (b : Bool)
  | and | or | not
  | opening | closing
  deriving DecidableEq, Repr

namespace Token

def spelling : Token → String
  | .value true => "TRUE"
  | .value false => "FALSE"
  | .and => "AND"
  | .or => "OR"
  | .not => "NOT"
  | .opening => "("
  | .closing => ")"

def ofWord? (w : List Char) : Option Token :=
  if w = ['T', 'R', 'U', 'E'] then some (.value true)
  else if w = ['F', 'A', 'L', 'S', 'E'] then some (.value false)
  else if w = ['A', 'N', 'D'] then some .and
  else if w = ['O', 'R'] then some .or
  else if w = ['N', 'O', 'T'] then some .not
  else none

/-- A character that is a token of its own, or part of one. -/
def isMark (c : Char) : Bool := c == '(' || c == ')' || c == '!' || c == '&' || c == '|'

def isWordChar (c : Char) : Bool := !Text.isBlank c && !isMark c

/-- The token of a mark at the front, and the rest. A single `&` or `|` is none. -/
def mark? : List Char → Option (Token × List Char)
  | '(' :: r => some (.opening, r)
  | ')' :: r => some (.closing, r)
  | '!' :: r => some (.not, r)
  | '&' :: '&' :: r => some (.and, r)
  | '|' :: '|' :: r => some (.or, r)
  | _ => none

/-- The word at the front: a run of word characters, or a mark that stands alone. -/
def word : List Char → List Char
  | [] => []
  | c :: r => c :: if isWordChar c then r.takeWhile isWordChar else []

/-- What follows the word at the front. -/
def afterWord : List Char → List Char
  | [] => []
  | c :: r => if isWordChar c then r.dropWhile isWordChar else r

theorem length_of_mark? {s r : List Char} {t : Token} (h : mark? s = some (t, r)) :
    r.length < s.length := by
  unfold mark? at h
  split at h <;> cases h <;> simp only [List.length_cons] <;> omega

theorem length_dropWhile_le (p : Char → Bool) (s : List Char) :
    (s.dropWhile p).length ≤ s.length := by
  induction s with
  | nil => exact Nat.le_refl _
  | cons c r ih =>
    rw [List.dropWhile_cons]
    split
    · exact Nat.le_succ_of_le ih
    · exact Nat.le_refl _

theorem length_afterWord (c : Char) (r : List Char) :
    (afterWord (c :: r)).length < (c :: r).length := by
  simp only [afterWord, List.length_cons]
  split
  · exact Nat.lt_succ_of_le (length_dropWhile_le _ r)
  · exact Nat.lt_succ_self _

/-- Read a condition as tokens; the first word that stands for no token is refused. -/
def scan (s : List Char) : Except ConditionError (List Token) :=
  match s with
  | [] => .ok []
  | c :: r =>
    if Text.isBlank c then scan r
    else match _h : mark? (c :: r) with
      | some (t, rest) => (scan rest).map (t :: ·)
      | none =>
        match ofWord? (word (c :: r)) with
        | some t => (scan (afterWord (c :: r))).map (t :: ·)
        | none => .error (.unexpectedToken (String.ofList (word (c :: r))))
termination_by s.length
decreasing_by
  · exact Nat.lt_succ_self _
  · exact length_of_mark? _h
  · exact length_afterWord c r

end Token

end Condition

end RigScript
