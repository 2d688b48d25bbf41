import RigScript.Text.Decimal
import RigScript.Text.Name
import RigScript.Version

/-! ## Statements

A line of a script, with its macros expanded and without its comment, is a statement of one of
six shapes. The shapes are tried in a fixed order and the first that fits decides; a line that
fits none is no statement. A shape is decided on the line as a list of characters. -/

namespace RigScript

/-- The condition of a jump that is written without one. -/
def alwaysHolds : String := "TRUE"

inductive Statement where
  /-- `LOAD_PLUGIN NAME`, with a gate on the version or without. -/
  | load (name : String) (gate : Option Gate)
  /-- `NAME := TEXT` -/
  | constant (name text : String)
  /-- `NAME ?= PLUGIN.COMMAND PARAMS` -/
  | assign (name plugin command params : String)
  /-- `PLUGIN.COMMAND PARAMS` -/
  | command (plugin command params : String)
  /-- `IF CONDITION GOTO LABEL`, or `GOTO LABEL` -/
  | jump (condition target : String)
  /-- `LABEL NAME` -/
  | label (name : String)
  deriving DecidableEq, Repr

namespace Statement

def shape : Statement → String
  | .load .. => "LOAD_PLUGIN"
  | .constant .. => "CONSTANT_MACRO"
  | .assign .. => "VARIABLE_MACRO"
  | .command .. => "COMMAND"
  | .jump .. => "IF_GOTO_LABEL"
  | .label .. => "LABEL"

/-! ## Parts of a line -/

def oneLine (s : List Char) : Bool := !s.contains '\n'

def wholeName? (s : List Char) : Option String :=
  if Text.isName s then some (String.ofList s) else none

/-- A name after a word and blanks, at the end of the line: `WORD NAME`. -/
def nameAfter? (word s : List Char) : Option String := do
  wholeName? (← Text.blanks? (← Text.word? word s))

/-- The relation at the front: the longer spelling is tried before the shorter one. -/
def relation? : List Char → Option (Relation × List Char)
  | '<' :: '=' :: r => some (.atMost, r)
  | '<' :: r => some (.below, r)
  | '>' :: '=' :: r => some (.atLeast, r)
  | '>' :: r => some (.above, r)
  | '=' :: '=' :: r => some (.exactly, r)
  | _ => none

/-- A component of the version of a gate: digits alone. -/
def gateComponent? (s : List Char) : Option UInt32 :=
  if s.all Text.isDigit then Version.component? s else none

/-- The version of a gate: a `v` and four components, and nothing else. -/
def gateVersion? : List Char → Option Version
  | 'v' :: r =>
    match Version.pieces r with
    | [a, b, c, d] => do
      return ⟨← gateComponent? a, ← gateComponent? b, ← gateComponent? c, ← gateComponent? d⟩
    | _ => none
  | _ => none

def gate? (s : List Char) : Option Gate := do
  let (relation, r) ← relation? s
  let version ← gateVersion? (← Text.blanks? r)
  return { relation, version }

def target? (s : List Char) : Option (String × String × List Char) := do
  let (plugin, r) ← Text.upperName? s
  let (verb, r) ← Text.upperName? (← Text.word? ['.'] r)
  return (String.ofList plugin, String.ofList verb, r)

/-- The parameters after a command: nothing, or blanks and a text on one line, which is trimmed. -/
def params? : List Char → Option String
  | [] => some ""
  | s => do
    let r ← Text.blanks? s
    if oneLine r then some (String.ofList (Text.trimEnd r)) else none

/-! ## The six shapes -/

/-- `LOAD_PLUGIN NAME` or `LOAD_PLUGIN NAME GATE`. A gate that cannot be read is a fault of the
line. -/
def load? (s : List Char) : Option Statement := do
  let r ← Text.blanks? (← Text.word? ['L', 'O', 'A', 'D', '_', 'P', 'L', 'U', 'G', 'I', 'N'] s)
  let (name, r) ← Text.name? r
  match r with
  | [] => return .load (String.ofList name) none
  | _ => return .load (String.ofList name) (some (← gate? (← Text.blanks? r)))

/-- `NAME := TEXT`, where the text stands on one line and is not empty. -/
def constant? (s : List Char) : Option Statement := do
  let (name, r) ← Text.name? s
  let r := Text.trimStart (← Text.word? [':', '='] (Text.trimStart r))
  if !r.isEmpty && oneLine r then
    some (.constant (String.ofList name) (String.ofList (Text.trimEnd r)))
  else none

def assign? (s : List Char) : Option Statement := do
  let (name, r) ← Text.name? s
  let r := Text.trimStart (← Text.word? ['?', '='] (Text.trimStart r))
  let (plugin, verb, r) ← target? r
  return .assign (String.ofList name) plugin verb (← params? r)

def command? (s : List Char) : Option Statement := do
  let (plugin, verb, r) ← target? s
  return .command plugin verb (← params? r)

/-- The condition and the label in `CONDITION GOTO LABEL`. The label is the run of name
characters at the end, so a condition may hold the word `GOTO` itself. -/
def conditionAndLabel? (s : List Char) : Option Statement := do
  let back := s.reverse
  let label ← wholeName? (back.takeWhile Text.isNameChar).reverse
  let r ← Text.blanks? (back.dropWhile Text.isNameChar)
  let r ← Text.blanks? (← Text.word? ['O', 'T', 'O', 'G'] r)
  if !r.isEmpty && oneLine r then some (.jump (String.ofList r.reverse) label) else none

def jump? (s : List Char) : Option Statement :=
  match Text.word? ['I', 'F'] s with
  | some r => do conditionAndLabel? (← Text.blanks? r)
  | none => (nameAfter? ['G', 'O', 'T', 'O'] s).map (.jump alwaysHolds)

def label? (s : List Char) : Option Statement :=
  (nameAfter? ['L', 'A', 'B', 'E', 'L'] s).map .label

/-- The shapes in the order in which they are tried. -/
def shapes : List (List Char → Option Statement) :=
  [load?, constant?, assign?, command?, jump?, label?]

def parse? (line : String) : Option Statement := shapes.findSome? (· line.toList)

end Statement

end RigScript
