import RigScript.Condition.Evaluate
import RigScript.Execution.DryRun

/-! ## Execution

A program is executed entry by entry. Commands are dispatched to the handlers of their plugins,
a result goes to its variable, and a jump is taken when its condition holds. A command that is
detached is handed to the workers, and the program goes on at once.

A step starts at the place of an entry and answers the place of the next. What a step did before
it failed remains done. -/

namespace RigScript

structure Stats where
  /-- Commands that were run, detached ones too. -/
  executed : Nat := 0
  jumps : Nat := 0
  /-- Failures that a fault tolerant plugin allowed. -/
  recovered : Nat := 0
  /-- Commands that were handed to the workers. -/
  detached : Nat := 0
  pauses : Nat := 0
  deriving DecidableEq, Repr

def Stats.toJson (s : Stats) : Json :=
  .obj [("executed", .num s.executed), ("jumps", .num s.jumps),
    ("recovered_failures", .num s.recovered), ("detached", .num s.detached),
    ("pauses", .num s.pauses)]

/-- A program that is being executed. -/
structure Machine (ω : Type) where
  program : Program
  stats : Stats := {}
  session : Session ω

namespace Machine

/-- Something that an execution does; what it did before it failed remains done. -/
abbrev Doing (ω : Type) := EStateM ExecError (Machine ω)

def onSession (f : Session ω → Session ω) : Doing ω Unit :=
  modify fun m => { m with session := f m.session }

def note (severity : Severity) (text : String) : Doing ω Unit := onSession (·.note severity text)

def act (a : StateM ω α) : Doing ω α :=
  modifyGet fun m =>
    let (x, session) := m.session.act a
    (x, { m with session })

def count (f : Stats → Stats) : Doing ω Unit := modify fun m => { m with stats := f m.stats }

def recover : Doing ω Unit := count fun s => { s with recovered := s.recovered + 1 }

/-! ## Dispatch -/

/-- The handler of a command. There is none, and the script goes on, if the plugin lacks the
command and is fault tolerant. -/
def resolve (handles : List (Handle ω)) (line : Nat) (plugin command : String) :
    Doing ω (Option (Handle ω × Handler ω)) := do
  match Registry.findIn handles plugin with
  | none => throw (.unknownPlugin line plugin)
  | some h =>
    match h.commands.handler? command with
    | none =>
      if h.faultTolerant then
        note .warn
          (ScriptError.lineMark line ++ plugin ++ "." ++ command ++ " not supported, skipped")
        recover
        return none
      else throw (.unsupportedCommand line plugin command)
    | some handler =>
      -- A plugin that is fault tolerant is asked all the same.
      if !h.enabled && !h.faultTolerant then throw (.pluginNotReady line plugin)
      else return some (h, handler)

/-- Pause before every command but the first, if there is a delay, and count the command. -/
def pace (delay : Nat) : Doing ω Unit :=
  count fun s =>
    { s with
      pauses := if s.executed = 0 || delay = 0 then s.pauses else s.pauses + 1
      executed := s.executed + 1 }

def call (h : Handle ω) (handler : Handler ω) (command params : String) : Doing ω Reply := do
  onSession (·.record (.called ⟨h.identity, command, params⟩))
  act (handler.call params)

/-- Run a command and wait for its result; it is empty if the script goes on without one. -/
def dispatch (handles : List (Handle ω)) (delay line : Nat) (plugin command params : String) :
    Doing ω String := do
  match ← resolve handles line plugin command with
  | none => return ""
  | some (h, handler) =>
    -- Variables may have received a text since the program was built.
    let params := (← get).program.macros.expand params
    pace delay
    let text := plugin ++ "." ++ command ++ " " ++ params
    match ← call h handler command params with
    | .ok result =>
      note .info (text ++ " -> OK [" ++ result ++ "]")
      return result
    | .error reason =>
      if h.faultTolerant then
        note .warn (ScriptError.lineMark line ++ text ++ " -> FAILED (" ++ reason ++
          "), fault tolerant, continuing")
        recover
        return ""
      else throw (.commandFailed line (commandText plugin command params) reason)

def dispatchDetached (handles : List (Handle ω)) (delay line : Nat)
    (plugin command params : String) : Doing ω Unit := do
  match ← resolve handles line plugin command with
  | none => return
  | some (h, handler) =>
    let params := (← get).program.macros.expand params
    pace delay
    count fun s => { s with detached := s.detached + 1 }
    let label := ScriptError.lineMark line ++ plugin ++ "." ++ command ++ " " ++ params
    note .info (String.ofList (Text.trimEnd label.toList) ++ " -> detached")
    onSession (·.spawn plugin label ⟨h.identity, command, params⟩ (handler.job params))

/-! ## Steps -/

/-- Give a result to a variable, and keep it with the entry that it came from. -/
def assign (place : Nat) (name result : String) : Doing ω Unit :=
  modify fun m =>
    { m with program :=
      { m.program with
        macros := m.program.macros.bind name result
        steps := m.program.steps.modify place fun s =>
          match s.entry with
          | .assign plugin command params variable_ _ =>
            { s with entry := .assign plugin command params variable_ result }
          | _ => s } }

def jump (place line : Nat) (condition target : String) : Doing ω Nat := do
  let program := (← get).program
  let condition := program.macros.expand condition
  match Condition.evaluate condition with
  | .error cause => throw (.malformedCondition line condition cause)
  | .ok false => return place + 1
  | .ok true =>
    match program.labelIndex? target with
    | none => throw (.unknownLabel line target)
    | some next =>
      count fun s => { s with jumps := s.jumps + 1 }
      note .debug (ScriptError.lineMark line ++ "[" ++ condition ++ "] -> GOTO " ++ target)
      return next

def step (handles : List (Handle ω)) (delay place : Nat) (s : Step) : Doing ω Nat := do
  match s.entry with
  | .command plugin command params false =>
    let _ ← dispatch handles delay s.line plugin command params
    return place + 1
  | .command plugin command params true =>
    dispatchDetached handles delay s.line plugin command params
    return place + 1
  | .assign plugin command params name _ =>
    let result ← dispatch handles delay s.line plugin command params
    note .debug (ScriptError.lineMark s.line ++ "$" ++ name ++ " = [" ++ result ++ "]")
    assign place name result
    return place + 1
  | .jump condition target => jump place s.line condition target
  | .label _ => return place + 1

/-! ## Runs -/

abbrev Ending := Except ExecError Stats

def withSession (m : Machine ω) (f : Session ω → Session ω) : Machine ω :=
  { m with session := f m.session }

def finishedText (s : Stats) : String :=
  "Program finished: " ++ toString s.executed ++ " command(s), " ++ toString s.jumps ++
    " jump(s), " ++ toString s.recovered ++ " recovered failure(s)"

/-- Execute entries from a place on. The workers move before every entry. A program may jump back
and so need not end: there is an ending only if it takes at most `fuel` steps. -/
def runFrom (handles : List (Handle ω)) (delay : Nat) :
    Nat → Nat → Machine ω → Option (Ending × Machine ω)
  | 0, _, _ => none
  | fuel + 1, place, m =>
    match m.program.steps[place]? with
    | none =>
      some (.ok m.stats, m.withSession (·.note .info (finishedText m.stats)))
    | some s =>
      -- A step may lead back, so nothing but the fuel decreases.
      match step handles delay place s (m.withSession (·.tick)) with
      | .ok next m => runFrom handles delay fuel next m
      | .error e m => some (.error e, m.withSession (·.note .error e.message))

def run (m : Machine ω) (handles : List (Handle ω)) (delay fuel : Nat) :
    Option (Ending × Machine ω) :=
  runFrom handles delay fuel 0 m

end Machine

end RigScript
