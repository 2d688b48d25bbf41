import RigScript.Execution.Machine
import RigScript.Program.Validate
import RigScript.Report

/-! ## Runs of scripts

A script is read and becomes a program; its plugins are loaded and their commands compared with
the program; the plugins are brought up; the parameters of the whole program are checked; only
then are the plugins enabled and the program is executed. Whatever happens, every plugin is
released in the end, after its tasks. -/

namespace RigScript

/-- Why a run did not succeed. There are always workers to be had: a system that cannot start any
is not modelled. -/
inductive RunError where
  | settings (e : SettingsError)
  | script (e : ScriptError)
  | load (e : LoadError)
  | exec (e : ExecError)
  deriving DecidableEq, Repr

namespace RunError

def message : RunError → String
  | .settings e => e.message
  | .script e => e.message
  | .load e => e.message
  | .exec e => e.message

def causes : RunError → List String
  | .settings (.inaccessible _ cause) => [cause.message]
  | .script (.unreadable _ cause) => [cause.message]
  | .exec (.malformedCondition _ _ cause) => [cause.message]
  | _ => []

/-- The text of the fault, followed by the texts of its causes. -/
def chain (e : RunError) : String := ": ".intercalate (e.message :: e.causes)

end RunError

structure Runner (ω : Type) where
  settings : Settings := {}
  source : LibrarySource ω
  /-- Plugins that need no library, by the name in the script. -/
  builtIns : List (String × Plugin ω) := []
  validateOnly : Bool := false

namespace Runner

def loader (r : Runner ω) : Loader ω := { settings := r.settings.library, source := r.source }

/-! ## Before execution -/

def validateLog (files : Files) (path : String) : List LogLine :=
  [⟨.info, "Validating " ++ path⟩] ++ Program.ofFileLog files path ++
    match Program.ofFile files path with
    | .error _ => []
    | .ok p =>
      [⟨.info, toString p.required.length ++ " plugin(s), " ++ toString p.size ++
        " command(s) validated"⟩]

/-- Register plugins that are built in; one that replaces another releases it. -/
def register (r : Runner ω) : List (String × Plugin ω) → Registering LoadError ω Unit
  | [] => return
  | (name, plugin) :: rest => do
    let h ← Registry.lift (Handle.builtIn name plugin (r.settings.overrides? name))
    let replaced ← modifyGet (·.insert h)
    -- Its tasks are finished by now, so it can go at once.
    if let some g := replaced then modify (·.onSession g.release)
    r.register rest

/-- Everything up to the bringing up of the plugins. -/
def bringUp (r : Runner ω) (p : Program) : Registering LoadError ω Unit := do
  r.register r.builtIns
  Registry.loadProgram p r.loader r.settings.overrides?
  Registry.crossCheck p
  Registry.initAll

/-- Everything before execution. -/
def prepare (r : Runner ω) (p : Program) : Registering RunError ω Unit := do
  EStateM.adaptExcept .load (r.bringUp p)
  -- The parameters are checked before any plugin is enabled.
  let handles := (← get).handles
  let _ ← EStateM.adaptExcept .exec (Registry.lift (Execution.dryRun handles p))
  Registry.enableAll

/-! ## Execution -/

def report (plugins : List String) (stats : Stats) (failures : Nat) : Report where
  plugins := plugins
  executed := stats.executed
  jumps := stats.jumps
  recovered := stats.recovered
  detached := stats.detached
  pauses := stats.pauses
  detachedFailures := failures

/-- What comes of a run: a report or a fault, and the session. -/
abbrev Result (ω : Type) := Except RunError Report × Session ω

/-- Wait for all tasks, release the plugins, and report. -/
def conclude (registry : Registry ω) (ending : Machine.Ending) : Result ω :=
  let registry := registry.onSession (·.joinAll)
  let failures := registry.session.pool.failures
  let session := registry.releaseAll
  match ending with
  | .error e => (.error (.exec e), session)
  | .ok stats =>
    let session :=
      if failures = 0 then session
      else session.note .warn (toString failures ++ " detached command(s) failed")
    (.ok (report registry.names stats failures), session)

/-- Execute a program in a fresh session. There is a result unless the program takes more than
`fuel` steps. -/
def execute (r : Runner ω) (p : Program) (session : Session ω) (fuel : Nat) :
    Option (Result ω) :=
  if r.validateOnly then some (.ok { validateOnly := true }, session)
  else
    match r.prepare p { session } with
    | .error e registry => some (.error e, registry.releaseAll)
    | .ok () registry => do
      let (ending, m) ← Machine.run { program := p, session := registry.session }
        registry.handles r.settings.commandDelay fuel
      return conclude { registry with session := m.session } ending

def run (r : Runner ω) (files : Files) (path : String) (session : Session ω) (fuel : Nat) :
    Option (Result ω) :=
  let session := session.noteAll (validateLog files path)
  match Program.ofFile files path with
  | .error e => some (.error (.script e), session)
  | .ok p => r.execute p session fuel

end Runner

end RigScript
