import RigScript.Script.Error
import RigScript.Version

/-! ## Faults of loading -/

namespace RigScript

/-- Why the plugins of a program cannot be used. -/
inductive LoadError where
  | libraryNotFound (name path reason : String)
  /-- The library lacks its constructor or its destructor. -/
  | missingEntryPoint (name symbol : String)
  | nullInstance (name : String)
  | invalidVersion (name text : String)
  | versionMismatch (name : String) (reported : Version) (gate : Gate)
  | initialization (name reason : String)
  | configuration (name reason : String)
  /-- A command addresses a plugin that is not there. -/
  | notLoaded (name : String)
  | unsupportedCommand (line : Nat) (plugin command : String)
  deriving DecidableEq, Repr

def LoadError.message : LoadError → String
  | .libraryNotFound name path reason =>
    "Plugin " ++ name ++ ": cannot open " ++ path ++ ": " ++ reason
  | .missingEntryPoint name symbol =>
    "Plugin " ++ name ++ ": entry point " ++ symbol ++ " not found"
  | .nullInstance name => "Plugin " ++ name ++ ": constructor returned no instance"
  | .invalidVersion name text => "Plugin " ++ name ++ ": invalid version [" ++ text ++ "]"
  | .versionMismatch name reported gate =>
    "Plugin " ++ name ++ ": version v" ++ reported.render ++ " does not satisfy " ++ gate.render
  | .initialization name reason =>
    "Plugin " ++ name ++ ": initialization failed: " ++ reason
  | .configuration name reason =>
    "Plugin " ++ name ++ ": configuration rejected: " ++ reason
  | .notLoaded name => "Plugin " ++ name ++ " is not loaded"
  | .unsupportedCommand line plugin command =>
    ScriptError.lineMark line ++ "command " ++ plugin ++ "." ++ command ++ " not supported"

end RigScript
