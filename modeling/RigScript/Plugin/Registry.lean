import RigScript.Plugin.Load

/-! ## Registry

The plugins in use, in the order in which they came, and the session in which they are used. A
name has one plugin. Plugins are released in the reverse order, each one after its tasks. -/

namespace RigScript

/-- The plugins in use and their session. -/
structure Registry (ω : Type) where
  handles : List (Handle ω) := []
  session : Session ω

/-- An action on the registry; what it did before it failed remains done. -/
abbrev Registering (ε ω : Type) := EStateM ε (Registry ω)

namespace Registry

def findIn (handles : List (Handle ω)) (name : String) : Option (Handle ω) :=
  handles.find? (·.name == name)

def find? (r : Registry ω) (name : String) : Option (Handle ω) := findIn r.handles name

def names (r : Registry ω) : List String := r.handles.map (·.name)

def onSession (r : Registry ω) (f : Session ω → Session ω) : Registry ω :=
  { r with session := f r.session }

def lift (m : Action ε ω α) : Registering ε ω α := fun r =>
  match m r.session with
  | .ok a session => .ok a { r with session }
  | .error e session => .error e { r with session }

/-! ## Coming -/

/-- Put a handle in the place of the one that has its name, or at the end. -/
def putIn (h : Handle ω) : List (Handle ω) → List (Handle ω)
  | [] => [h]
  | g :: gs => if g.name = h.name then h :: gs else g :: putIn h gs

/-- Add a handle. The one that it replaces is handed back when its tasks are finished. -/
def insert (r : Registry ω) (h : Handle ω) : Option (Handle ω) × Registry ω :=
  match r.find? h.name with
  | none => (none, { r with handles := putIn h r.handles })
  | some g =>
    (some g, { handles := putIn h r.handles, session := r.session.join h.name })

/-- Have a plugin that a program declares: one that is there already is held against the gate,
any other one is loaded. -/
def require (l : Loader ω) (overrides : String → Option Overrides) (q : Requirement) :
    Registering LoadError ω Unit := do
  match (← get).find? q.name with
  | some h =>
    match h.checkGate q.name q.gate with
    | .error e => throw e
    | .ok () => lift (Action.note .info (h.name ++ " v" ++ h.version.render ++ " -> built in"))
  | none =>
    let h ← lift (l.load q.name q.gate (overrides q.name))
    modify fun r => { r with handles := r.handles ++ [h] }

def requireAll (l : Loader ω) (overrides : String → Option Overrides) :
    List Requirement → Registering LoadError ω Unit
  | [] => return
  | q :: qs => do
    require l overrides q
    requireAll l overrides qs

def loadProgram (p : Program) (l : Loader ω) (overrides : String → Option Overrides) :
    Registering LoadError ω Unit :=
  requireAll l overrides p.required

/-! ## Checking -/

/-- Is the command of an entry offered? A plugin that is fault tolerant may lack it. -/
def crossCheckStep (handles : List (Handle ω)) (s : Step) : Action LoadError ω Unit := do
  match s.entry.target? with
  | none => return
  | some (plugin, command) =>
    match findIn handles plugin with
    | none => throw (.notLoaded plugin)
    | some h =>
      if h.commands.contains command then return
      else if h.faultTolerant then
        Action.note .warn (ScriptError.lineMark s.line ++ plugin ++ "." ++ command ++
          " is not supported, ignored at run time")
      else throw (.unsupportedCommand s.line plugin command)

def crossCheckAll (handles : List (Handle ω)) : List Step → Action LoadError ω Unit
  | [] => return
  | s :: ss => do
    crossCheckStep handles s
    crossCheckAll handles ss

def crossCheck (p : Program) : Registering LoadError ω Unit := do
  lift (crossCheckAll (← get).handles p.steps)

/-! ## Bringing up -/

/-- Bring plugins up one after the other, up to the first that fails. -/
def initEach : List (Handle ω) → Action LoadError ω Unit
  | [] => return
  | h :: hs => do
    h.init
    initEach hs

def initAll : Registering LoadError ω Unit := do
  let handles := (← get).handles
  lift (initEach handles)
  lift (Action.note .debug (toString handles.length ++ " plugin(s) initialized"))

def enableEach : List (Handle ω) → Action ε ω (List (Handle ω))
  | [] => return []
  | h :: hs => do
    let h ← h.enable
    let hs ← enableEach hs
    return h :: hs

def enableAll : Registering ε ω Unit := do
  let handles ← lift (enableEach (← get).handles)
  modify fun r => { r with handles }

/-! ## Going -/

/-- Release plugins one after the other, each after its tasks. -/
def releaseEach : List (Handle ω) → Session ω → Session ω
  | [], s => s
  | h :: hs, s => releaseEach hs (h.release (s.join h.name))

/-- Release all plugins, the last one first; the session remains, and nothing is left to do in
it. -/
def releaseAll (r : Registry ω) : Session ω := (releaseEach r.handles.reverse r.session).joinAll

end Registry

end RigScript
