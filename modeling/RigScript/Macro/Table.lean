import RigScript.Json
import RigScript.NameMap

/-! ## Macro table

A macro is a name for a text. A *constant* has its text from the script. A *variable* is known
from the script too, but has no text until the command that yields it has run. -/

namespace RigScript

inductive MacroValue where
  /-- A text given in the script. -/
  | constant (text : String)
  /-- The last result of a command, if it has run. -/
  | variable (text : Option String)
  deriving DecidableEq, Repr

/-- The text that a macro stands for at present. -/
def MacroValue.bound? : MacroValue → Option String
  | .constant text => some text
  | .variable text => text

abbrev MacroTable := NameMap MacroValue

namespace MacroTable

/-- Add a constant, unless the name is taken. -/
def define? (t : MacroTable) (name text : String) : Option MacroTable :=
  if t.contains name then none else some (t.insert name (.constant text))

/-- Make a name known as a variable, unless a constant has it. A variable keeps its text. -/
def register? (t : MacroTable) (name : String) : Option MacroTable :=
  match t.find? name with
  | some (.constant _) => none
  | some (.variable _) => some t
  | none => some (t.insert name (.variable none))

def bind (t : MacroTable) (name text : String) : MacroTable :=
  t.insert name (.variable (some text))

def get? (t : MacroTable) (name : String) : Option String := (t.find? name).bind (·.bound?)

def constantEntries (t : MacroTable) : List (String × String) :=
  t.entries.filterMap fun
    | (name, .constant text) => some (name, text)
    | (_, .variable _) => none

def variableEntries (t : MacroTable) : List (String × Option String) :=
  t.entries.filterMap fun
    | (_, .constant _) => none
    | (name, .variable text) => some (name, text)

def toJson (t : MacroTable) : Json :=
  .obj <| t.entries.map fun
    | (name, .constant text) =>
      (name, .obj [("kind", .str "constant"), ("value", .str text)])
    | (name, .variable text) =>
      (name, .obj [("kind", .str "variable"), ("value", Json.ofOption .str text)])

end MacroTable

end RigScript
