import RigScript.CommandLine.Arguments
import RigScript.CommandLine.Verdict

/-! ## Carrying out a command line

The settings are read, then the script, which is shown if that was asked for, and then executed.
The first fault ends it all. -/

namespace RigScript

/-- What a command line yields. -/
structure CommandResult (ω : Type) where
  verdict : Verdict
  /-- What was shown before execution. -/
  listing : String := ""
  session : Session ω

namespace CommandResult

/-- A fault is put into the log with its causes, and these are the verdict as well. -/
def ofError (listing : String) (e : RunError) (session : Session ω) : CommandResult ω where
  verdict := .ofChain e
  listing := listing
  session := session.note .error e.chain

def ofResult (format : OutputFormat) (listing : String) : Runner.Result ω → CommandResult ω
  | (.error e, session) => ofError listing e session
  | (.ok report, session) => { verdict := .success (report.show format), listing, session }

end CommandResult

namespace Arguments

def listing (a : Arguments) (p : Program) : String :=
  if a.list then p.show a.format ++ "\n" else ""

/-- Carry out a command line in a fresh session. There is a result unless the program takes more
than `fuel` steps. -/
def run (a : Arguments) (files : Files) (source : LibrarySource ω) (session : Session ω)
    (fuel : Nat) : Option (CommandResult ω) :=
  let session := session.noteAll (Settings.loadLog files a.settings)
  match Settings.load files a.settings with
  | .error e => some (.ofError "" (.settings e) session)
  | .ok settings =>
    let session := session.noteAll (Runner.validateLog files a.script)
    match Program.ofFile files a.script with
    | .error e => some (.ofError "" (.script e) session)
    | .ok p =>
      let runner : Runner ω := { settings, source, validateOnly := a.validateOnly }
      (runner.execute p session fuel).map (CommandResult.ofResult a.format (a.listing p))

end Arguments

end RigScript
