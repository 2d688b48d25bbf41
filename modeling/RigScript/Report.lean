import RigScript.Program.Listing

/-! ## Reports -/

namespace RigScript

/-- What is told after a successful run. -/
structure Report where
  /-- The script was only validated. -/
  validateOnly : Bool := false
  /-- The plugins in the order in which they came. -/
  plugins : List String := []
  executed : Nat := 0
  jumps : Nat := 0
  recovered : Nat := 0
  detached : Nat := 0
  pauses : Nat := 0
  detachedFailures : Nat := 0
  deriving DecidableEq, Repr

namespace Report

def summary (r : Report) : String :=
  if r.validateOnly then "Validation OK"
  else
    "Run OK: " ++ toString r.executed ++ " command(s), " ++ toString r.jumps ++ " jump(s), " ++
      toString r.recovered ++ " recovered failure(s), " ++ toString r.detached ++ " detached (" ++
      toString r.detachedFailures ++ " failed)"

def toJson (r : Report) : Json :=
  .obj [("validate_only", .bool r.validateOnly), ("plugins", Json.strings r.plugins),
    ("executed", .num r.executed), ("jumps", .num r.jumps),
    ("recovered_failures", .num r.recovered), ("detached", .num r.detached),
    ("pauses", .num r.pauses), ("detached_failures", .num r.detachedFailures)]

def «show» (r : Report) : OutputFormat → String
  | .text => r.summary
  | .json => r.toJson.pretty

end Report

end RigScript
