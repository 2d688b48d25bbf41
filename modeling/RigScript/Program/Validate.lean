import RigScript.Program.Build
import RigScript.Program.Check
import RigScript.Program.Listing

/-! ## From a script to a program

A script is read, its lines are added one by one, and the program as a whole is checked. The
first fault ends it. -/

namespace RigScript.Program

/-- The program of lines that have been read. -/
def ofLines (lines : List Line) : Except ScriptError Program := do
  let p ← Program.pushAll {} lines
  p.checkControlFlow
  p.checkPlugins
  return p

def ofSource (source : String) : Except ScriptError Program := do
  ofLines (← Script.readLines source)

def ofFile (files : Files) (path : String) : Except ScriptError Program :=
  match files.read path with
  | .error cause => .error (.unreadable path cause)
  | .ok source => ofSource source

/-! ## Log -/

/-- What the log says about lines that have been read. -/
def ofLinesLog (lines : List Line) : List LogLine :=
  Program.pushAllLog {} lines ++
    match Program.pushAll {} lines with
    | .error _ => []
    | .ok p =>
      match p.checkControlFlow with
      | .error _ => []
      | .ok () =>
        p.pluginsLog ++
          match p.checkPlugins with
          | .error _ => []
          | .ok () => [⟨.debug, "Validated program:\n" ++ p.listing⟩]

def ofSourceLog (source : String) : List LogLine :=
  Script.readingLog source ++
    match Script.readLines source with
    | .error _ => []
    | .ok lines => ofLinesLog lines

def readFileLog (files : Files) (path : String) : List LogLine :=
  match files.read path with
  | .error _ => []
  | .ok source =>
    Script.readingLog source ++
      match Script.readLines source with
      | .error _ => []
      | .ok lines =>
        [⟨.debug, "Read " ++ toString lines.length ++ " statements from " ++ path⟩]

def ofFileLog (files : Files) (path : String) : List LogLine :=
  readFileLog files path ++
    match files.read path with
    | .error _ => []
    | .ok source =>
      match Script.readLines source with
      | .error _ => []
      | .ok lines => ofLinesLog lines

end RigScript.Program
