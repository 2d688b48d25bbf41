import RigScript.Json
import RigScript.Plugin.Error
import RigScript.Session

/-! ## Handles

A handle is a plugin in use: what the engine took down about it when it was loaded, and, if it
comes from a library, what has to be done to release it. Releasing runs the destructor first and
then unloads the library. -/

namespace RigScript

/-- An action on plugins: it changes the session and may fail, and what it did before it failed
remains done. -/
abbrev Action (ε ω : Type) := EStateM ε (Session ω)

namespace Action

def record (e : Event) : Action ε ω Unit := modify (·.record e)

def note (severity : Severity) (text : String) : Action ε ω Unit := modify (·.note severity text)

def act (m : StateM ω α) : Action ε ω α := modifyGet (·.act m)

end Action

/-- An open library that a plugin came from. -/
structure Origin (ω : Type) where
  path : String
  destructor : StateM ω Unit

/-- A plugin in use. -/
structure Handle (ω : Type) where
  /-- The name in the script. -/
  name : String
  plugin : Plugin ω
  /-- The version that was reported. -/
  version : Version := ⟨0, 0, 0, 0⟩
  /-- The commands that were offered. -/
  commands : CommandTable ω := {}
  /-- Is the plugin ready to run commands? -/
  enabled : Bool := false
  /-- Takes the place of what the plugin says about that. -/
  enabledOverride : Option Bool := none
  /-- May a script go on when a command fails? -/
  faultTolerant : Bool := false
  /-- The library, unless the plugin is built in. -/
  origin : Option (Origin ω) := none

namespace Handle

def identity (h : Handle ω) : Identity := ⟨h.name, h.plugin.model⟩

def isForeign (h : Handle ω) : Bool := h.origin.isSome

/-- The handle as a text for someone who looks for a fault. -/
def describe (h : Handle ω) : String :=
  "PluginHandle \x7b name: " ++ Text.quoted h.name ++ ", version: " ++ h.version.describe ++
    ", commands: " ++ h.commands.describe ++ ", enabled: " ++ toString h.enabled ++
    ", fault_tolerant: " ++ toString h.faultTolerant ++ ", foreign: " ++ toString h.isForeign ++
    " \x7d"

def toJson (h : Handle ω) : Json :=
  .obj [("name", .str h.name), ("version", .str h.version.render),
    ("commands", Json.strings h.commands.names), ("enabled", .bool h.enabled),
    ("fault_tolerant", .bool h.faultTolerant), ("foreign", .bool h.isForeign)]

def configure (h : Handle ω) (settings : List (String × String)) : Action LoadError ω Unit := do
  Action.record (.configured h.identity settings)
  match ← Action.act (h.plugin.configure settings) with
  | .ok () => return
  | .error reason => throw (.configuration h.name reason)

/-- Take down the version, the commands and the flags of a plugin. -/
def capture (h : Handle ω) (overrides : Option Overrides) : Action LoadError ω (Handle ω) := do
  let world := (← get).world
  let reported := h.plugin.version world
  match Version.parse? reported with
  | none => throw (.invalidVersion h.name reported)
  | some version =>
    let enabledOverride := overrides.bind (·.enabled)
    return { h with
      version
      commands := h.plugin.commands world
      enabledOverride
      enabled := enabledOverride.getD (h.plugin.isEnabled world)
      faultTolerant :=
        (overrides.bind (·.faultTolerant)).getD (h.plugin.isFaultTolerant world) }

/-- Configure a plugin, if anything is said about it, and take down what it offers. -/
def prepare (h : Handle ω) (overrides : Option Overrides) : Action LoadError ω (Handle ω) := do
  if let some o := overrides then h.configure o.settings
  h.capture overrides

def builtIn (name : String) (plugin : Plugin ω) (overrides : Option Overrides) :
    Action LoadError ω (Handle ω) :=
  prepare { name, plugin } overrides

def init (h : Handle ω) : Action LoadError ω Unit := do
  Action.record (.initialized h.identity)
  match ← Action.act h.plugin.init with
  | .ok () => return
  | .error reason => throw (.initialization h.name reason)

/-- Let the plugin get ready, and look again whether it is. -/
def enable (h : Handle ω) : Action ε ω (Handle ω) := do
  Action.record (.enabled h.identity)
  Action.act h.plugin.enable
  -- The settings outweigh what the plugin says.
  let enabled := h.enabledOverride.getD (h.plugin.isEnabled (← get).world)
  Action.note .debug (h.name ++ " -> enabled: " ++ if enabled then "true" else "false")
  return { h with enabled }

/-- Release a plugin: its destructor is run and its library is unloaded. -/
def release (h : Handle ω) (s : Session ω) : Session ω :=
  match h.origin with
  | none => s
  | some origin =>
    let ((), s) := s.act origin.destructor
    ((s.record (.destroyed h.identity)).record (.unloaded origin.path)).note .debug
      (h.name ++ " -> unloaded")

def checkGate (h : Handle ω) (name : String) (gate : Option Gate) : Except LoadError Unit :=
  match gate with
  | none => .ok ()
  | some g =>
    if g.admits h.version then .ok () else .error (.versionMismatch name h.version g)

end Handle

end RigScript
