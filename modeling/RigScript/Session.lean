import RigScript.Log
import RigScript.Plugin.Basic

/-! ## Sessions

A session is what the engine changes while it works with plugins: their world, the tasks that
were handed to workers, the trace of everything that was done to plugins, and the log.

Workers run beside the script. When they start and finish their tasks is not up to the engine,
so a session carries a *schedule*: at every tick it says which tasks are started and which are
finished. The engine ticks before each entry of a script and before each join, and a join does
whatever the schedule has left undone. -/

namespace RigScript

/-! ## Trace -/

/-- A plugin as the trace names it: by its name in the script and by its own. -/
structure Identity where
  name : String
  model : String
  deriving DecidableEq, Repr

structure Call where
  plugin : Identity
  command : String
  params : String
  deriving DecidableEq, Repr

inductive Event where
  | configured (plugin : Identity) (settings : List (String × String))
  | initialized (plugin : Identity)
  | checked (call : Call)
  | enabled (plugin : Identity)
  /-- A handler is run, and the script waits for it. -/
  | called (call : Call)
  | started (serial : Nat) (call : Call)
  /-- A worker is done with a task, and this came of it. -/
  | finished (serial : Nat) (call : Call) (outcome : Outcome)
  | opened (path : String)
  | resolved (symbol : String)
  /-- A constructor was run; it may have yielded no plugin. -/
  | constructed (plugin : Option Identity)
  | destroyed (plugin : Identity)
  | unloaded (path : String)
  deriving DecidableEq, Repr

/-! ## Tasks -/

/-- How far a worker has come with a task. -/
inductive Stage where
  | waiting
  | running
  | finished (outcome : Outcome)
  deriving DecidableEq, Repr

/-- A command that was handed to the workers. -/
structure Task (ω : Type) where
  /-- Tasks are numbered as they come. -/
  serial : Nat
  /-- The plugin that may not be released before the task is finished. -/
  owner : String
  label : String
  call : Call
  job : StateM ω Outcome
  stage : Stage := .waiting

/-- Has the worker broken down on the task? -/
def Task.isCrashed (t : Task ω) : Bool := t.stage = .finished .crashed

/-- The tasks that nobody has waited for yet, and counts of all tasks. -/
structure Pool (ω : Type) where
  tasks : List (Task ω) := []
  spawned : Nat := 0
  /-- The number of tasks that failed, and of those found crashed. -/
  failures : Nat := 0

namespace Pool

def outstanding (p : Pool ω) : Nat := p.tasks.length

def find? (p : Pool ω) (serial : Nat) : Option (Task ω) := p.tasks.find? (·.serial == serial)

def setStage (p : Pool ω) (serial : Nat) (stage : Stage) : Pool ω :=
  { p with tasks := p.tasks.map fun t => if t.serial = serial then { t with stage } else t }

def remove (p : Pool ω) (serial : Nat) : Pool ω :=
  { p with tasks := p.tasks.filter (·.serial != serial) }

def fail (p : Pool ω) : Pool ω := { p with failures := p.failures + 1 }

/-- The plugins that own tasks, in the order of their first task, each once. -/
def owners (p : Pool ω) : List String := (p.tasks.map (·.owner)).eraseDups

end Pool

/-- What a worker does of its own accord. -/
inductive Move where
  | start (serial : Nat)
  | finish (serial : Nat)
  deriving DecidableEq, Repr

/-- What the workers do at each tick. -/
abbrev Schedule := Nat → List Move

/-- Workers that do nothing before they are waited for. -/
def Schedule.idle : Schedule := fun _ => []

/-! ## Sessions -/

/-- What the engine changes while it works with plugins. -/
structure Session (ω : Type) where
  world : ω
  pool : Pool ω := {}
  trace : List Event := []
  log : List LogLine := []
  workerLog : List LogLine := []
  schedule : Schedule := Schedule.idle
  clock : Nat := 0

namespace Session

def record (s : Session ω) (e : Event) : Session ω := { s with trace := s.trace ++ [e] }

def note (s : Session ω) (severity : Severity) (text : String) : Session ω :=
  { s with log := s.log ++ [⟨severity, text⟩] }

def noteAll (s : Session ω) (lines : List LogLine) : Session ω := { s with log := s.log ++ lines }

def noteWorker (s : Session ω) (severity : Severity) (text : String) : Session ω :=
  { s with workerLog := s.workerLog ++ [⟨severity, text⟩] }

def act (s : Session ω) (m : StateM ω α) : α × Session ω :=
  let (a, world) := m.run s.world
  (a, { s with world })

/-! ### Workers -/

def spawn (s : Session ω) (owner label : String) (call : Call) (job : StateM ω Outcome) :
    Session ω :=
  { s with pool :=
    { s.pool with
      tasks := s.pool.tasks ++ [{ serial := s.pool.spawned, owner, label, call, job }]
      spawned := s.pool.spawned + 1 } }

/-- A worker starts a waiting task. -/
def start (s : Session ω) (serial : Nat) : Session ω :=
  match s.pool.find? serial with
  | some { stage := .waiting, call, .. } =>
    { s.record (.started serial call) with pool := s.pool.setStage serial .running }
  | _ => s

/-- Account for the outcome of a task: a failure is counted at once, a crash shows later. -/
def settle (s : Session ω) (label : String) : Outcome → Session ω
  | .done text => s.noteWorker .debug (label ++ " -> detached done [" ++ text ++ "]")
  | .failed reason =>
    let s := s.noteWorker .error (label ++ " -> detached failed: " ++ reason)
    { s with pool := s.pool.fail }
  | .crashed => s

def finish (s : Session ω) (serial : Nat) : Session ω :=
  match s.pool.find? serial with
  | some { stage := .running, call, job, label, .. } =>
    let (outcome, s) := s.act job
    let s := s.record (.finished serial call outcome)
    { s with pool := s.pool.setStage serial (.finished outcome) }.settle label outcome
  | _ => s

def move (s : Session ω) : Move → Session ω
  | .start serial => s.start serial
  | .finish serial => s.finish serial

def tick (s : Session ω) : Session ω :=
  (s.schedule s.clock).foldl move { s with clock := s.clock + 1 }

/-- Forget a task of a plugin; that its worker broke down is counted now. -/
def drop (s : Session ω) (owner : String) (serial : Nat) : Session ω :=
  let crashed := (s.pool.find? serial).any Task.isCrashed
  let s := { s with pool := s.pool.remove serial }
  if crashed then
    { s with pool := s.pool.fail }.note .error
      ("Detached task of " ++ owner ++ " did not complete")
  else s

/-- Wait for one task of a plugin. Whatever the schedule has left undone is done now. -/
def await (s : Session ω) (owner : String) (serial : Nat) : Session ω :=
  ((s.start serial).finish serial).drop owner serial

def join (s : Session ω) (owner : String) : Session ω :=
  let s := s.tick
  let mine := s.pool.tasks.filter (·.owner == owner)
  if mine.isEmpty then s
  else
    let s := s.note .debug
      ("Waiting for " ++ toString mine.length ++ " detached task(s) of " ++ owner)
    mine.foldl (fun s t => s.await owner t.serial) s

def joinAll (s : Session ω) : Session ω := s.pool.owners.foldl join s

@[simp] theorem record_trace (s : Session ω) (e : Event) :
    (s.record e).trace = s.trace ++ [e] := rfl

@[simp] theorem note_trace (s : Session ω) (severity : Severity) (text : String) :
    (s.note severity text).trace = s.trace := rfl

@[simp] theorem note_world (s : Session ω) (severity : Severity) (text : String) :
    (s.note severity text).world = s.world := rfl

@[simp] theorem record_world (s : Session ω) (e : Event) : (s.record e).world = s.world := rfl

@[simp] theorem note_pool (s : Session ω) (severity : Severity) (text : String) :
    (s.note severity text).pool = s.pool := rfl

@[simp] theorem record_pool (s : Session ω) (e : Event) : (s.record e).pool = s.pool := rfl

end Session

end RigScript
