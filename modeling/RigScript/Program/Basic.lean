import RigScript.Macro.Table
import RigScript.Version

/-! ## Programs

A program is what a script becomes: the plugins it declares, its macros, and a row of entries to
be executed. -/

namespace RigScript

/-- A plugin that a script declares. -/
structure Requirement where
  name : String
  gate : Option Gate
  line : Nat
  deriving DecidableEq, Repr

/-- An entry of a program. Parameters and conditions may still refer to variables; they are
expanded when the entry is executed. -/
inductive Entry where
  /-- Run a command, on a worker if it is detached. -/
  | command (plugin command params : String) (detached : Bool)
  /-- Run a command and give its result to a variable; `last` is the result of the last time. -/
  | assign (plugin command params name last : String)
  /-- Go on at a label if a condition holds. -/
  | jump (condition target : String)
  | label (name : String)
  deriving DecidableEq, Repr

/-- An entry and where it comes from. -/
structure Step where
  line : Nat
  /-- The line as it was classified, with its macros expanded. -/
  text : String
  entry : Entry
  deriving DecidableEq, Repr

structure Program where
  required : List Requirement := []
  macros : MacroTable := {}
  steps : List Step := []
  deriving DecidableEq, Repr

namespace Entry

/-- The plugin and the command that an entry addresses. -/
def target? : Entry → Option (String × String)
  | .command plugin verb _ _ => some (plugin, verb)
  | .assign plugin verb _ _ _ => some (plugin, verb)
  | .jump .. | .label _ => none

def plugin? (e : Entry) : Option String := e.target?.map (·.1)

def label? : Entry → Option String
  | .label name => some name
  | _ => none

end Entry

namespace Program

def requirement? (p : Program) (name : String) : Option Requirement :=
  p.required.find? (·.name == name)

/-- The names of the declared plugins, in order, each once. -/
def declared (p : Program) : List String := NameMap.sorted (p.required.map (·.name))

/-- The names of the addressed plugins, in order, each once. -/
def referenced (p : Program) : List String :=
  NameMap.sorted (p.steps.filterMap (·.entry.plugin?))

def size (p : Program) : Nat := p.steps.length

/-- The place of the last entry that sets a label, counted from `start`. -/
def labelFrom (name : String) : Nat → List Step → Option Nat
  | _, [] => none
  | start, s :: rest =>
    (labelFrom name (start + 1) rest).or (if s.entry = .label name then some start else none)

/-- The place of a label; if it is set twice, the last one counts. -/
def labelIndex? (p : Program) (name : String) : Option Nat := labelFrom name 0 p.steps

/-- Every label with its place, by name. -/
def labels (p : Program) : List (String × Nat) :=
  (NameMap.ofList (p.steps.zipIdx.filterMap fun (s, i) => s.entry.label?.map (·, i))).entries

end Program

end RigScript
