import RigScript.Condition.Token
import RigScript.Script.Error

/-! ## Faults of a run -/

namespace RigScript

/-- Why a program stops before its end. -/
inductive ExecError where
  | unknownPlugin (line : Nat) (plugin : String)
  | unsupportedCommand (line : Nat) (plugin command : String)
  | pluginNotReady (line : Nat) (plugin : String)
  | invalidArguments (line : Nat) (text reason : String)
  | commandFailed (line : Nat) (text reason : String)
  /-- The condition, with its macros expanded, has no value. -/
  | malformedCondition (line : Nat) (condition : String) (cause : ConditionError)
  | unknownLabel (line : Nat) (label : String)
  deriving DecidableEq, Repr

namespace ExecError

open ScriptError (lineMark)

def message : ExecError → String
  | .unknownPlugin line plugin => lineMark line ++ "plugin " ++ plugin ++ " is not loaded"
  | .unsupportedCommand line plugin command =>
    lineMark line ++ "command " ++ plugin ++ "." ++ command ++ " not supported"
  | .pluginNotReady line plugin => lineMark line ++ "plugin " ++ plugin ++ " is not ready"
  | .invalidArguments line text reason =>
    lineMark line ++ "[" ++ text ++ "] invalid arguments: " ++ reason
  | .commandFailed line text reason => lineMark line ++ "[" ++ text ++ "] failed: " ++ reason
  | .malformedCondition line condition cause =>
    lineMark line ++ "invalid condition [" ++ condition ++ "]: " ++ cause.message
  | .unknownLabel line label => lineMark line ++ "label [" ++ label ++ "] not found"

def line : ExecError → Nat
  | .unknownPlugin line _ | .unsupportedCommand line _ _ | .pluginNotReady line _
  | .invalidArguments line _ _ | .commandFailed line _ _ | .malformedCondition line _ _
  | .unknownLabel line _ => line

end ExecError

end RigScript
