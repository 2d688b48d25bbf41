import RigScript.Runner

/-! ## Verdicts

What the program tells its caller in the end: a code, which is zero for success and one for every
failure, and a text. -/

namespace RigScript

/-- What a command comes to. -/
inductive Verdict where
  /-- The text is for the output. -/
  | success (text : Option String)
  | failure (text : String)
  deriving DecidableEq, Repr

namespace Verdict

def isSuccess : Verdict → Bool
  | .success _ => true
  | .failure _ => false

/-- The code for the caller. -/
def code (v : Verdict) : UInt8 := if v.isSuccess then 0 else 1

def message? : Verdict → Option String
  | .success text => text
  | .failure text => some text

/-- The verdict on a fault, without its causes. -/
def ofError (e : RunError) : Verdict := .failure e.message

/-- The verdict on a fault, with its causes. -/
def ofChain (e : RunError) : Verdict := .failure e.chain

end Verdict

end RigScript
