import RigScript.Log
import RigScript.Script.Error
import RigScript.Text.Blank
import RigScript.Text.Decimal

/-! ## Lines of a script

A script is read line by line. Blank lines, comment lines, which begin with `#`, and block
comments, which stand between a line `---` and a line `!--`, are left out. Of every other line
the end from the first `#` on is left out, unless a backslash stands before it; `\#` is a plain
`#`. A line is looked at without the blanks at its ends, and keeps its number in the file. -/

namespace RigScript

/-- A line of a script that is neither blank nor comment. -/
structure Line where
  number : Nat
  text : String
  deriving DecidableEq, Repr

namespace Script

/-- The physical lines of a text. A carriage return before the end of a line is a blank like
others, and what follows the last line feed is a line, though it may be empty. -/
def physicalLines : List Char → List (List Char)
  | [] => [[]]
  | c :: r =>
    if c = '\n' then [] :: physicalLines r
    else match physicalLines r with
      | [] => [[c]]
      | l :: ls => (c :: l) :: ls

/-- The line that opens a block comment. -/
def commentStart : List Char := ['-', '-', '-']

/-- The line that closes a block comment. -/
def commentEnd : List Char := ['!', '-', '-']

/-- The part of a line before its comment; `\#` stands for `#`. -/
def beforeComment : List Char → List Char
  | [] => []
  | '#' :: _ => []
  | '\\' :: '#' :: r => '#' :: beforeComment r
  | c :: r => c :: beforeComment r

def stripComment (s : List Char) : List Char := Text.trimEnd (beforeComment s)

/-- What came of reading: the lines that were kept, and either the fault that ended it or the
line of the block comment that is still open. -/
structure Reading where
  kept : List Line
  outcome : Except ScriptError (Option Nat)

def Reading.keep (l : Line) (r : Reading) : Reading := { r with kept := l :: r.kept }

/-- Read physical lines, of which the first has the given number. `opened` is the line of the
block comment that is open. -/
def readFrom : Nat → Option Nat → List (List Char) → Reading
  | _, opened, [] => ⟨[], .ok opened⟩
  | n, opened, raw :: rest =>
    let line := Text.trim raw
    if line = commentStart then
      match opened with
      | some _ => ⟨[], .error (.nestedComment n)⟩
      | none => readFrom (n + 1) (some n) rest
    else if line = commentEnd then
      match opened with
      | some _ => readFrom (n + 1) none rest
      | none => ⟨[], .error (.strayCommentEnd n)⟩
    else if opened.isSome || stripComment line = [] then readFrom (n + 1) opened rest
    else (readFrom (n + 1) opened rest).keep ⟨n, String.ofList (stripComment line)⟩

def reading (source : String) : Reading := readFrom 1 none (physicalLines source.toList)

def readLines (source : String) : Except ScriptError (List Line) :=
  let r := reading source
  r.outcome.map fun _ => r.kept

def readingLog (source : String) : List LogLine :=
  let r := reading source
  r.kept.map (fun l => ⟨.trace, Text.alignRight 4 l.number ++ ": " ++ l.text⟩) ++
    match r.outcome with
    | .ok (some n) =>
      [⟨.warn, "Block comment opened at line " ++ toString n ++ " is never closed"⟩]
    | _ => []

end Script

end RigScript
