import RigScript.Plugin.Handle
import RigScript.Program.Basic
import RigScript.Settings

/-! ## Loading from a library

A library is opened, its two symbols are looked up, its constructor is run, and the plugin is
prepared and held against its gate. Whatever fails, a library that was opened is unloaded, and a
plugin that was constructed is destroyed before that. -/

namespace RigScript

/-- Where libraries come from and how they are laid out. -/
structure Loader (ω : Type) where
  settings : LibrarySettings := {}
  source : LibrarySource ω

namespace Loader

/-- Give up an open library that yielded no plugin. -/
def abandon (path : String) (e : LoadError) : Action LoadError ω α := do
  Action.record (.unloaded path)
  throw e

def lookUp (path name symbol : String) (found : Option α) : Action LoadError ω α := do
  Action.record (.resolved symbol)
  match found with
  | some a => return a
  | none => abandon path (.missingEntryPoint name symbol)

def construct (path name : String) (constructor : StateM ω (Option (Plugin ω))) :
    Action LoadError ω (Plugin ω) := do
  match ← Action.act constructor with
  | some plugin =>
    Action.record (.constructed (some ⟨name, plugin.model⟩))
    return plugin
  | none =>
    Action.record (.constructed none)
    abandon path (.nullInstance name)

/-- Prepare a plugin from a library and hold it against its gate. -/
def examine (h : Handle ω) (gate : Option Gate) (overrides : Option Overrides) :
    Action LoadError ω (Handle ω) := do
  let h ← h.prepare overrides
  match h.checkGate h.name gate with
  | .ok () => return h
  | .error e => throw e

def load (l : Loader ω) (name : String) (gate : Option Gate) (overrides : Option Overrides) :
    Action LoadError ω (Handle ω) := do
  let path := l.settings.path name
  Action.record (.opened path)
  match l.source path with
  | .error reason => throw (.libraryNotFound name path reason)
  | .ok library =>
    let entry := l.settings.entryPoint
    let exit := l.settings.exitPoint
    let constructor ← lookUp path name entry (library.constructor? entry)
    let destructor ← lookUp path name exit (library.destructor? exit)
    let plugin ← construct path name constructor
    let bare : Handle ω := { name, plugin, origin := some { path, destructor } }
    -- From here on there is a plugin, which has to be destroyed before its library is unloaded.
    let h ← tryCatch (examine bare gate overrides) fun e => do
      modify bare.release
      throw e
    Action.note .info (name ++ " v" ++ h.version.render ++ " [" ++
      " ".intercalate h.commands.names ++ "] -> loaded")
    return h

end Loader

end RigScript
