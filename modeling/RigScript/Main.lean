import RigScript.CommandLine.Run

/-! ## The program

Reads the arguments, looks up the two files that they name, carries the command line out, and
shows what comes of it: the log as far as it is wanted and faults go to the error stream, all
else to the output. Plugin libraries cannot be opened here, so every one is reported as missing.
-/

namespace RigScript.Main

def usage : String :=
  "Run line-oriented hardware test scripts against dynamically loaded plugins

Usage: uscript [OPTIONS]

Options:
  -s, --script <SCRIPT>  Script to run [default: script.txt]
  -c, --config <CONFIG>  TOML configuration file [env: USCRIPT_CONFIG=] [default: uscript.toml]
      --validate-only    Validate the script without loading plugins or running it
      --list             Print the validated program
  -f, --format <FORMAT>  Output format [default: text] [possible values: text, json]
  -v, --verbose...       More log output (-v debug, -vv trace)
  -q, --quiet            Errors only
  -h, --help             Print help
  -V, --version          Print version
"

def release : String := "uscript 0.1.0\n"

def refusalText : Refusal → String
  | .unknownArgument => "unexpected argument"
  | .invalidValue => "a value is missing or not allowed"
  | .tooManyValues => "a value was given to a flag"
  | .conflict => "options that exclude each other, or an option given twice"
  | .help | .version => ""

/-! ## Files -/

/-- The cause behind a fault of the system. -/
def causeOf : IO.Error → FileError
  | .noFileOrDirectory .. => .notFound
  | .inappropriateType _ code _ => if code = 21 then .isDirectory else .notDirectory
  | e => .other (toString e)

def readText (path : String) : IO (Except FileError String) := do
  try
    let bytes ← IO.FS.readBinFile path
    match String.fromUTF8? bytes with
    | some text => return .ok text
    | none => return .error .notText
  catch e => return .error (causeOf e)

/-- The files of the given paths. A path that leads through something that is no directory leads
to nothing, as one that leads nowhere. -/
def gather (paths : List String) : IO Files := do
  let found ← paths.mapM fun path => return (path, ← readText path)
  let read (path : String) : Except FileError String :=
    match found.find? (·.1 == path) with
    | some (_, content) => content
    | none => .error .notFound
  let present (path : String) : Bool :=
    match read path with
    | .error .notFound | .error .notDirectory => false
    | _ => true
  return { present, read }

/-! ## Carrying out -/

/-- No library can be opened. -/
def noLibraries : LibrarySource Unit := fun path =>
  .error (path ++ ": cannot open shared object file: No such file or directory")

/-- The number of steps after which a program is given up. -/
def fuel : Nat := UInt64.size

def showLog (limit : Severity) (lines : List LogLine) : IO Unit := do
  for l in lines do
    if limit.within l.severity then IO.eprintln l.render

def showResult (a : Arguments) (r : CommandResult Unit) : IO UInt32 := do
  IO.print r.listing
  showLog a.severity (r.session.log ++ r.session.workerLog)
  if r.verdict.isSuccess then
    if let some text := r.verdict.message? then IO.println text
  return r.verdict.code.toUInt32

def carryOut (a : Arguments) : IO UInt32 := do
  let files ← gather [a.settings, a.script]
  match a.run files noLibraries { world := () } fuel with
  | some r => showResult a r
  | none =>
    IO.eprintln "the script does not come to an end"
    return 1

end RigScript.Main

open RigScript in
def main (arguments : List String) : IO UInt32 := do
  match Arguments.parse arguments (← IO.getEnv "USCRIPT_CONFIG") with
  | .ok a => Main.carryOut a
  | .error .help =>
    IO.print Main.usage
    return 0
  | .error .version =>
    IO.print Main.release
    return 0
  | .error e =>
    IO.eprintln ("error: " ++ Main.refusalText e)
    return 2
