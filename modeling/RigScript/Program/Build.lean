import RigScript.Log
import RigScript.Macro.Expand
import RigScript.Program.Basic
import RigScript.Script.Line
import RigScript.Statement

/-! ## Building a program

A program grows by one line at a time. A line is expanded, classified, and adds one declaration,
one constant or one entry; a line that cannot be added changes nothing. -/

namespace RigScript

/-- Split the mark of a detached command, an `&` after a blank or alone, off the parameters. -/
def splitDetached (s : List Char) : List Char × Bool :=
  match s.reverse with
  | ['&'] => ([], true)
  | '&' :: c :: r => if Text.isBlank c then (Text.trimEnd (c :: r).reverse, true) else (s, false)
  | _ => (s, false)

namespace Program

def append (p : Program) (line : Nat) (text : String) (entry : Entry) : Program :=
  { p with steps := p.steps ++ [⟨line, text, entry⟩] }

def addStatement (p : Program) (line : Nat) (text : String) :
    Statement → Except ScriptError Program
  | .load name gate =>
    if (p.requirement? name).isSome then .error (.pluginRepeated line name)
    else .ok { p with required := p.required ++ [⟨name, gate, line⟩] }
  | .constant name value =>
    match p.macros.define? name value with
    | some macros => .ok { p with macros }
    | none => .error (.macroTaken line name)
  | .assign name plugin command params =>
    match splitDetached params.toList with
    | (_, true) => .error (.detachedMacro line name)
    | (params, false) =>
      -- A variable may be assigned in more than one place.
      match p.macros.register? name with
      | some macros =>
        .ok ({ p with macros }.append line text
          (.assign plugin command (String.ofList params) name ""))
      | none => .error (.macroTaken line name)
  | .command plugin command params =>
    let (params, detached) := splitDetached params.toList
    .ok (p.append line text (.command plugin command (String.ofList params) detached))
  | .jump condition target => .ok (p.append line text (.jump condition target))
  | .label name => .ok (p.append line text (.label name))

def push (p : Program) (l : Line) : Except ScriptError Program :=
  let text := p.macros.expand l.text
  match Statement.parse? text with
  | none => .error (.invalidStatement l.number text)
  | some s => p.addStatement l.number text s

/-- Add lines one after the other, up to the first that cannot be added. -/
def pushAll : Program → List Line → Except ScriptError Program
  | p, [] => .ok p
  | p, l :: ls => do (← p.push l).pushAll ls

def classifyLog (text : String) : LogLine :=
  let shape := match Statement.parse? text with
    | some s => s.shape
    | none => "INVALID"
  ⟨.trace, text ++ " -> " ++ shape⟩

/-- What the log says when a line is added: the references to names that no macro has, and the
shape of the statement. -/
def pushLog (p : Program) (l : Line) : List LogLine :=
  let text := p.macros.expand l.text
  (p.macros.undefined text).map (fun name =>
      ⟨.warn, ScriptError.lineMark l.number ++ "reference to undefined macro $" ++ name⟩) ++
    [classifyLog text]

def pushAllLog : Program → List Line → List LogLine
  | _, [] => []
  | p, l :: ls =>
    p.pushLog l ++
      match p.push l with
      | .ok q => q.pushAllLog ls
      | .error _ => []

end Program

end RigScript
