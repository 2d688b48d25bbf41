import RigScript.Files

/-! ## Faults of a script

Everything that keeps a script from being a program. Each fault stops the reading as a whole: a
script is a program or it is not run at all. -/

namespace RigScript

/-- Why a script is no program. Lines are counted from 1. -/
inductive ScriptError where
  | unreadable (path : String) (cause : FileError)
  | nestedComment (line : Nat)
  | strayCommentEnd (line : Nat)
  /-- The line, with its macros expanded, is no statement. -/
  | invalidStatement (line : Nat) (text : String)
  | macroTaken (line : Nat) (name : String)
  /-- A variable is to take its text from a detached command. -/
  | detachedMacro (line : Nat) (name : String)
  | pluginRepeated (line : Nat) (name : String)
  | orphanLabel (line : Nat) (label : String)
  | labelRepeated (line : Nat) (label : String)
  /-- The label of a jump is never set; the line is that of the first such jump. -/
  | labelMissing (line : Nat) (label : String)
  /-- Commands address plugins that are not declared; the names are in order. -/
  | pluginsMissing (names : List String)
  deriving DecidableEq, Repr

namespace ScriptError

def lineMark (line : Nat) : String := "Line " ++ toString line ++ ": "

def message : ScriptError → String
  | .unreadable path cause => "Cannot read script " ++ path ++ ": " ++ cause.message
  | .nestedComment line => lineMark line ++ "nested block comment not supported"
  | .strayCommentEnd line => lineMark line ++ "end of block comment without a matching start"
  | .invalidStatement line text => lineMark line ++ "invalid statement [" ++ text ++ "]"
  | .macroTaken line name => lineMark line ++ "macro already exists: " ++ name
  | .detachedMacro line name =>
    lineMark line ++ "variable macro " ++ name ++ " cannot be assigned by a detached command"
  | .pluginRepeated line name => lineMark line ++ "plugin already declared: " ++ name
  | .orphanLabel line label => lineMark line ++ "label [" ++ label ++ "] without preceding GOTO"
  | .labelRepeated line label => lineMark line ++ "duplicate label [" ++ label ++ "]"
  | .labelMissing line label => lineMark line ++ "GOTO " ++ label ++ " without corresponding label"
  | .pluginsMissing names => "Missing plugins: " ++ " ".intercalate names

/-- The line that the fault points at, if it points at one. -/
def line? : ScriptError → Option Nat
  | .unreadable .. | .pluginsMissing _ => none
  | .nestedComment line | .strayCommentEnd line | .invalidStatement line _
  | .macroTaken line _ | .detachedMacro line _ | .pluginRepeated line _
  | .orphanLabel line _ | .labelRepeated line _ | .labelMissing line _ => some line

end ScriptError

end RigScript
