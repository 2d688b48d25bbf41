import RigScript.Execution.Error
import RigScript.Macro.Expand
import RigScript.Plugin.Registry
import RigScript.Text.Blank

/-! ## Dry run

Before anything is run, the parameters of every entry are put to the check of their command, in
the order of the script and whatever the jumps. No handler is called, and neither the program nor
its macros change. -/

namespace RigScript

/-- A command with its parameters, without blanks at the end. -/
def commandText (plugin command params : String) : String :=
  String.ofList (Text.trimEnd (plugin ++ "." ++ command ++ " " ++ params).toList)

namespace Execution

/-- Put the parameters of a command to its check. A plugin that is fault tolerant may be given
parameters that will not do. -/
def checkArguments (h : Handle ω) (line : Nat) (command params : String)
    (check : ArgumentCheck) : Action ExecError ω Unit := do
  let text := commandText h.name command params
  let mark := ScriptError.lineMark line ++ "[" ++ text ++ "] "
  Action.record (.checked ⟨h.identity, command, params⟩)
  match check params with
  | .ok () => Action.note .trace (mark ++ "-> arguments OK")
  | .error reason =>
    if h.faultTolerant then
      Action.note .warn
        (mark ++ "invalid arguments (" ++ reason ++ "), fault tolerant, continuing")
    else
      let e := ExecError.invalidArguments line text reason
      Action.note .error e.message
      throw e

/-- Check one entry; the answer counts the command, if there is one. -/
def dryStep (handles : List (Handle ω)) (macros : MacroTable) (s : Step) :
    Action ExecError ω Nat := do
  match s.entry with
  | .jump .. | .label _ => return 0
  | .command plugin command params _ | .assign plugin command params _ _ =>
    match Registry.findIn handles plugin with
    | none => throw (.unknownPlugin s.line plugin)
    | some h =>
      if h.commands.contains command then
        match h.commands.check? command with
        | none => return 1
        | some check =>
          checkArguments h s.line command (macros.expand params) check
          return 1
      else if h.faultTolerant then return 0
      else throw (.unsupportedCommand s.line plugin command)

/-- Check entries one after the other, up to the first that fails; the answer counts the
commands. -/
def dryEach (handles : List (Handle ω)) (macros : MacroTable) :
    List Step → Action ExecError ω Nat
  | [] => return 0
  | s :: ss => do
    let n ← dryStep handles macros s
    let m ← dryEach handles macros ss
    return n + m

/-- Check the parameters of a whole program; the answer is the number of commands. -/
def dryRun (handles : List (Handle ω)) (p : Program) : Action ExecError ω Nat := do
  let n ← dryEach handles p.macros p.steps
  Action.note .info ("Arguments of " ++ toString n ++ " command(s) validated")
  return n

end Execution

end RigScript
