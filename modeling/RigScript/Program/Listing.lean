import RigScript.Program.Basic
import RigScript.Text.Blank
import RigScript.Text.Decimal

/-! ## Listings

A program is shown as a text in four sections or as a JSON document. An entry is shown as a line
that a script could hold. -/

namespace RigScript

/-- Parameters behind a command, after a blank if there are any. -/
def paramsSuffix (params : String) : String := if params = "" then "" else " " ++ params

/-- An entry as a line of a script. -/
def Entry.render : Entry → String
  | .command plugin verb params detached =>
    plugin ++ "." ++ verb ++ paramsSuffix params ++ if detached then " &" else ""
  | .assign plugin verb params name _ =>
    name ++ " ?= " ++ plugin ++ "." ++ verb ++ paramsSuffix params
  | .jump condition target => "IF " ++ condition ++ " GOTO " ++ target
  | .label name => "LABEL " ++ name

namespace Program

/-! ## Text -/

def requirementLine (r : Requirement) : String :=
  "  " ++ r.name ++
    match r.gate with
    | some gate => " " ++ gate.render
    | none => ""

def constantLine (e : String × String) : String := "  " ++ e.1 ++ " := " ++ e.2

def variableLine (e : String × Option String) : String :=
  "  " ++ e.1 ++ " = " ++ e.2.getD "<unbound>"

def stepLine (s : Step) : String :=
  "  [" ++ Text.alignRight 4 s.line ++ "] " ++ s.entry.render

def listingLines (p : Program) : List String :=
  ["Plugins:"] ++ p.required.map requirementLine ++
  ["Constants:"] ++ p.macros.constantEntries.map constantLine ++
  ["Variables:"] ++ p.macros.variableEntries.map variableLine ++
  ["Commands:"] ++ p.steps.map stepLine

/-- The listing, of which every line is ended. -/
def listing (p : Program) : String := String.join (p.listingLines.map (· ++ "\n"))

/-! ## JSON -/

def versionJson (v : Version) : Json :=
  .obj [("major", .num v.major.toNat), ("minor", .num v.minor.toNat),
    ("patch", .num v.patch.toNat), ("build", .num v.build.toNat)]

def gateJson (g : Gate) : Json :=
  .obj [("rule", .str g.relation.symbol), ("version", versionJson g.version)]

def requirementJson (r : Requirement) : Json :=
  .obj [("name", .str r.name), ("requirement", Json.ofOption gateJson r.gate),
    ("line", .num r.line)]

/-- An entry as an object, of which `kind` tells the constructor. -/
def entryJson : Entry → Json
  | .command plugin command params detached =>
    .obj [("kind", .str "command"), ("plugin", .str plugin), ("command", .str command),
      ("params", .str params), ("detached", .bool detached)]
  | .assign plugin command params name last =>
    .obj [("kind", .str "macro_command"), ("plugin", .str plugin), ("command", .str command),
      ("params", .str params), ("result_name", .str name), ("result_value", .str last)]
  | .jump condition target =>
    .obj [("kind", .str "condition"), ("expr", .str condition), ("target", .str target)]
  | .label name => .obj [("kind", .str "label"), ("name", .str name)]

def stepJson (s : Step) : Json :=
  .obj [("line", .num s.line), ("text", .str s.text), ("entry", entryJson s.entry)]

def toJson (p : Program) : Json :=
  .obj [("required_plugins", .arr (p.required.map requirementJson)),
    ("macros", p.macros.toJson),
    ("commands", .arr (p.steps.map stepJson))]

end Program

/-! ## Formats -/

/-- How a program or a report is shown. -/
inductive OutputFormat where
  | text | json
  deriving DecidableEq, Repr

/-- The program as it is shown; the text has no blanks at its end. -/
def Program.show (p : Program) : OutputFormat → String
  | .text => String.ofList (Text.trimEnd p.listing.toList)
  | .json => p.toJson.pretty

end RigScript
