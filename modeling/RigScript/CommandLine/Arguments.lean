import RigScript.Log
import RigScript.Program.Listing

/-! ## Arguments of the command line

A command line is a row of options. Some options take a value, the others are flags; each has a
long name, and most have a letter. Letters of flags may stand together, and a value may stand
apart from its option or be attached to it.

A value that stands apart is looked at only when the next option turns up, or at the end. An
argument that is no option at all is therefore the graver fault, whatever stands before it. -/

namespace RigScript

/-- What a command line asks for. -/
structure Arguments where
  script : String := "script.txt"
  settings : String := "uscript.toml"
  format : OutputFormat := .text
  validateOnly : Bool := false
  list : Bool := false
  /-- How many times more of the log was asked for. -/
  verbosity : Nat := 0
  /-- Only errors are wanted in the log. -/
  quiet : Bool := false
  deriving DecidableEq, Repr

/-- Why a command line is not carried out. -/
inductive Refusal where
  /-- An argument that is no option. -/
  | unknownArgument
  /-- A value is missing, empty, or not one of those that its option takes. -/
  | invalidValue
  /-- A flag was given a value. -/
  | tooManyValues
  /-- Options that exclude each other, or one that is given twice. -/
  | conflict
  | help
  | version
  deriving DecidableEq, Repr

namespace Arguments

/-- The severity up to which the log is shown. -/
def severity (a : Arguments) : Severity :=
  if a.quiet then .error
  else match a.verbosity with
    | 0 => .info
    | 1 => .debug
    | _ => .trace

/-! ## Options -/

/-- An option that takes a value. -/
inductive Key where
  | script | settings | format
  deriving DecidableEq, Repr

/-- An option that takes none. -/
inductive Flag where
  | validateOnly | list | verbose | quiet
  deriving DecidableEq, Repr

/-- What a name stands for. -/
inductive Switch where
  | key (k : Key)
  | flag (f : Flag)
  | help
  | version
  deriving DecidableEq, Repr

def Switch.ofName? : String → Option Switch
  | "script" => some (.key .script)
  | "config" => some (.key .settings)
  | "format" => some (.key .format)
  | "validate-only" => some (.flag .validateOnly)
  | "list" => some (.flag .list)
  | "verbose" => some (.flag .verbose)
  | "quiet" => some (.flag .quiet)
  | "help" => some .help
  | "version" => some .version
  | _ => none

def Switch.ofLetter? : Char → Option Switch
  | 's' => some (.key .script)
  | 'c' => some (.key .settings)
  | 'f' => some (.key .format)
  | 'v' => some (.flag .verbose)
  | 'q' => some (.flag .quiet)
  | 'h' => some .help
  | 'V' => some .version
  | _ => none

/-! ## Reading -/

/-- What has been read of a command line. -/
structure Draft where
  script : Option String := none
  settings : Option String := none
  format : Option OutputFormat := none
  validateOnly : Bool := false
  list : Bool := false
  verbosity : Nat := 0
  quiet : Bool := false
  /-- The last option that takes a value, with the value if it has come already. -/
  pending : Option (Key × Option String) := none
  deriving DecidableEq, Repr

abbrev Reading := Except Refusal

/-- A path may be anything but empty. -/
def readPath (value : String) : Reading String :=
  if value = "" then throw .invalidValue else return value

def readFormat : String → Reading OutputFormat
  | "text" => return .text
  | "json" => return .json
  | _ => throw .invalidValue

namespace Draft

/-- Refuse what was given already. -/
def once (given : Bool) : Reading Unit := if given then throw .conflict else return

def assign (d : Draft) (k : Key) (value : String) : Reading Draft :=
  match k with
  | .script => do
    once d.script.isSome
    return { d with script := some (← readPath value) }
  | .settings => do
    once d.settings.isSome
    return { d with settings := some (← readPath value) }
  | .format => do
    once d.format.isSome
    return { d with format := some (← readFormat value) }

def settle (d : Draft) : Reading Draft :=
  match d.pending with
  | none => return d
  | some (_, none) => throw .invalidValue
  | some (k, some value) => { d with pending := none }.assign k value

/-- Raise a flag. Only the one that asks for more of the log may be repeated, and it is counted up
to 255. -/
def raise (d : Draft) : Flag → Reading Draft
  | .validateOnly => do
    once d.validateOnly
    return { d with validateOnly := true }
  | .list => do
    once d.list
    return { d with list := true }
  | .verbose => return { d with verbosity := min (d.verbosity + 1) 255 }
  | .quiet => do
    once d.quiet
    return { d with quiet := true }

def add (d : Draft) (o : Switch) : Reading Draft := do
  let d ← d.settle
  match o with
  | .key k => return { d with pending := some (k, none) }
  | .flag f => d.raise f
  | .help => throw .help
  | .version => throw .version

def addWith (d : Draft) (k : Key) (value : String) : Reading Draft := do
  (← d.settle).assign k value

/-- A long name, with what stands after its first equals sign. -/
def addName (d : Draft) (name : String) (value : Option String) : Reading Draft :=
  match Switch.ofName? name, value with
  | none, _ => throw .unknownArgument
  | some o, none => d.add o
  | some (.key k), some value => d.addWith k value
  | some _, some _ => throw .tooManyValues

/-- Letters that stand together. What stands after one that takes a value is its value; an equals
sign between the two is left out. -/
def addLetters (d : Draft) : List Char → Reading Draft
  | [] => return d
  | c :: r =>
    match Switch.ofLetter? c with
    | none => throw .unknownArgument
    | some (.key k) =>
      match r with
      | [] => d.add (.key k)
      | '=' :: value => d.addWith k (String.ofList value)
      | value => d.addWith k (String.ofList value)
    | some o => do (← d.add o).addLetters r

/-- An argument that does not look like an option is the value of the last one, if that waits for
it. -/
def addValue (d : Draft) (value : String) : Reading Draft :=
  match d.pending with
  | some (k, none) => return { d with pending := some (k, some value) }
  | _ => throw .unknownArgument

def addArgument (d : Draft) (a : String) : Reading Draft :=
  match a.toList with
  | '-' :: '-' :: r =>
    let name := String.ofList (r.takeWhile (· != '='))
    match r.dropWhile (· != '=') with
    | [] => d.addName name none
    | _ :: value => d.addName name (some (String.ofList value))
  | '-' :: c :: r => d.addLetters (c :: r)
  | _ => d.addValue a

/-- All arguments. After two hyphens that stand alone there may be no more. -/
def addAll (d : Draft) : List String → Reading Draft
  | [] => d.settle
  | a :: rest =>
    if a = "--" then
      if rest.isEmpty then d.settle else throw .unknownArgument
    else do (← d.addArgument a).addAll rest

/-- The path of the settings: as given, else from the environment, else the usual one. -/
def settingsPath (d : Draft) (environment : Option String) : Reading String :=
  match d.settings, environment with
  | some path, _ => return path
  | none, some path => readPath path
  | none, none => return ({} : Arguments).settings

def finish (d : Draft) (environment : Option String) : Reading Arguments := do
  let settings ← d.settingsPath environment
  if d.quiet && d.verbosity ≠ 0 then throw .conflict
  let usual : Arguments := {}
  return {
    script := d.script.getD usual.script
    settings
    format := d.format.getD usual.format
    validateOnly := d.validateOnly
    list := d.list
    verbosity := d.verbosity
    quiet := d.quiet }

end Draft

/-- Read a command line; the environment may name the settings. -/
def parse (arguments : List String) (environment : Option String) : Except Refusal Arguments := do
  (← Draft.addAll {} arguments).finish environment

end Arguments

end RigScript
