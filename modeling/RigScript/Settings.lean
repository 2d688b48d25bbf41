import RigScript.Files
import RigScript.Log
import RigScript.Plugin.Basic
import RigScript.Text.Lowercase
import RigScript.Toml.Render

/-! ## Settings

The pace of a script, where the libraries of plugins are, how many commands may be detached at
once, and what is said about single plugins. Everything has a default. -/

namespace RigScript

/-- Where the libraries of plugins are, and the symbols of their constructor and destructor. -/
structure LibrarySettings where
  directory : String := "plugins"
  namePrefix : String := "lib"
  extension : String := "_plugin.so"
  entryPoint : String := "uscript_plugin_entry"
  exitPoint : String := "uscript_plugin_exit"
  deriving DecidableEq, Repr

structure PluginSettings where
  faultTolerant : Option Bool := none
  enabled : Option Bool := none
  settings : NameMap Toml.Value := {}

structure Settings where
  /-- The pause between two commands, in milliseconds. -/
  commandDelay : Nat := 0
  library : LibrarySettings := {}
  /-- The largest number of commands that run detached at the same time. -/
  maxDetached : Nat := 8
  plugins : NameMap PluginSettings := {}

inductive SettingsError where
  | inaccessible (path : String) (cause : FileError)
  | malformed (path : String)
  /-- A number is too large for a settings file. -/
  | unwritable
  deriving DecidableEq, Repr

def SettingsError.message : SettingsError → String
  | .inaccessible path cause => "Cannot access config " ++ path ++ ": " ++ cause.message
  | .malformed path => "Invalid config " ++ path
  | .unwritable => "Cannot serialize config: number out of range"

/-! ## Library paths -/

/-- The path of a name in a directory. A name that is a path from the root stays as it is. -/
def joinPath (directory name : String) : String :=
  if name.startsWith "/" then name
  else if directory = "" || directory.endsWith "/" then directory ++ name
  else directory ++ "/" ++ name

def LibrarySettings.path (l : LibrarySettings) (name : String) : String :=
  joinPath l.directory (l.namePrefix ++ Text.lowercase name ++ l.extension)

def PluginSettings.overrides (p : PluginSettings) : Overrides where
  faultTolerant := p.faultTolerant
  enabled := p.enabled
  settings := p.settings.entries.map fun (k, v) => (k, v.flatten)

def Settings.overrides? (s : Settings) (name : String) : Option Overrides :=
  (s.plugins.find? name).map (·.overrides)

namespace Settings

open Toml (Value)

/-! ## Reading

A section is a table of which the keys that are not known are left out. It may also be an array
of the values of its keys, in order and as far as there are any. A date stands for a table with
one key of its own, as wherever a table is expected. -/

def fields? : Value → Option (List (String × Value))
  | .table fields => some fields
  | .dateTime d => some [(Value.dateTimeKey, .str d.render)]
  | _ => none

/-- The fields of a section with the given keys. -/
def sectionFields? (keys : List String) : Value → Option (List (String × Value))
  | .arr items => some (keys.zip items)
  | v => fields? v

/-- Look up a field, and read it if it is there. -/
def field (fields : List (String × Value)) (key : String) (default : α)
    (read : Value → Option α) : Option α :=
  match fields.find? (·.1 == key) with
  | some (_, v) => read v
  | none => some default

def readNat : Value → Option Nat
  | .int n => if 0 ≤ n then some n.toNat else none
  | _ => none

def readText : Value → Option String
  | .str s => some s
  | _ => none

def readFlag : Value → Option (Option Bool)
  | .bool b => some (some b)
  | _ => none

/-- Read a table of values of one kind. -/
def readMap (read : Value → Option α) (v : Value) : Option (NameMap α) := do
  let entries ← (← fields? v).mapM fun (k, w) => (read w).map (k, ·)
  return NameMap.ofList entries

def readDelay (v : Value) : Option Nat := do
  let f ← sectionFields? ["command_delay_ms"] v
  field f "command_delay_ms" 0 readNat

def readLibrary (v : Value) : Option LibrarySettings := do
  let f ← sectionFields? ["directory", "prefix", "extension", "entry_point", "exit_point"] v
  let d : LibrarySettings := {}
  return {
    directory := ← field f "directory" d.directory readText
    namePrefix := ← field f "prefix" d.namePrefix readText
    extension := ← field f "extension" d.extension readText
    entryPoint := ← field f "entry_point" d.entryPoint readText
    exitPoint := ← field f "exit_point" d.exitPoint readText }

def readWorkers (v : Value) : Option Nat := do
  let f ← sectionFields? ["max_detached"] v
  field f "max_detached" 8 readNat

def readPlugin (v : Value) : Option PluginSettings := do
  let f ← sectionFields? ["fault_tolerant", "enabled", "settings"] v
  return {
    faultTolerant := ← field f "fault_tolerant" none readFlag
    enabled := ← field f "enabled" none readFlag
    settings := ← field f "settings" {} (readMap Value.settle?) }

def ofFields? (f : List (String × Value)) : Option Settings := do
  return {
    commandDelay := ← field f "script" 0 readDelay
    library := ← field f "loader" {} readLibrary
    maxDetached := ← field f "workers" 8 readWorkers
    plugins := ← field f "plugins" {} (readMap readPlugin) }

def parse? (text : String) : Option Settings := do ofFields? (← Toml.parse? text)

/-- Settings from a file; without one, the defaults. -/
def load (files : Files) (path : String) : Except SettingsError Settings :=
  if files.present path then
    match files.read path with
    | .error cause => .error (.inaccessible path cause)
    | .ok text =>
      match parse? text with
      | some s => .ok s
      | none => .error (.malformed path)
  else .ok {}

def loadLog (files : Files) (path : String) : List LogLine :=
  if files.present path then
    match load files path with
    | .ok _ => [⟨.debug, "Loaded config from " ++ path⟩]
    | .error _ => []
  else [⟨.debug, "No config at " ++ path ++ ", using defaults"⟩]

/-! ## Writing -/

def pluginValue (p : PluginSettings) : Value :=
  .table ((p.faultTolerant.map fun b => ("fault_tolerant", .bool b)).toList ++
    (p.enabled.map fun b => ("enabled", .bool b)).toList ++
    [("settings", .table p.settings.entries)])

/-- The settings as tables, in the order in which they are written. -/
def toFields (s : Settings) : List (String × Value) :=
  [("script", .table [("command_delay_ms", .int s.commandDelay)]),
    ("loader", .table [("directory", .str s.library.directory),
      ("prefix", .str s.library.namePrefix), ("extension", .str s.library.extension),
      ("entry_point", .str s.library.entryPoint), ("exit_point", .str s.library.exitPoint)]),
    ("workers", .table [("max_detached", .int s.maxDetached)]),
    ("plugins", .table (s.plugins.entries.map fun (k, p) => (k, pluginValue p)))]

/-- The text of a settings file, if all numbers fit. -/
def render (s : Settings) : Except SettingsError String :=
  if Value.maxInt < s.commandDelay || Value.maxInt < s.maxDetached then .error .unwritable
  else .ok (Value.document s.toFields)

def same (s t : Settings) : Bool :=
  s.commandDelay == t.commandDelay && s.library == t.library && s.maxDetached == t.maxDetached &&
    Value.same (.table s.toFields) (.table t.toFields)

def save (tree : FileTree) (path : String) (s : Settings) : Except SettingsError FileTree := do
  let text ← s.render
  match tree.write path text with
  | .ok tree => return tree
  | .error cause => throw (.inaccessible path cause)

end Settings

end RigScript
