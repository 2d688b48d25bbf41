import RigScript.Program.Build

/-! ## Building in place

A builder changes its program statement by statement of its own. When a line fails, whatever was
changed on its behalf before stays changed, and further lines may be pushed all the same. -/

namespace RigScript

/-- Something that changes the program of a builder; what it changed before it failed remains. -/
abbrev Building := EStateM ScriptError Program

namespace Building

def requires (name : String) : Building Bool := return ((← get).requirement? name).isSome

def require (r : Requirement) : Building Unit :=
  modify fun p => { p with required := p.required ++ [r] }

def insert (name : String) (value : MacroValue) : Building Unit :=
  modify fun p => { p with macros := p.macros.insert name value }

def append (line : Nat) (text : String) (entry : Entry) : Building Unit :=
  modify (·.append line text entry)

/-- Define a constant; the answer is whether its name was free. -/
def define (name text : String) : Building Bool := do
  if (← get).macros.contains name then return false
  insert name (.constant text)
  return true

/-- Make a name known as a variable; the answer is whether it may be one. -/
def register (name : String) : Building Bool := do
  match (← get).macros.find? name with
  | some (.constant _) => return false
  | some (.variable _) => return true
  | none =>
    insert name (.variable none)
    return true

def add (line : Nat) (text : String) : Statement → Building Unit
  | .load name gate => do
    if ← requires name then throw (.pluginRepeated line name)
    require ⟨name, gate, line⟩
  | .constant name value => do
    if !(← define name value) then throw (.macroTaken line name)
  | .assign name plugin command params => do
    let (params, detached) := splitDetached params.toList
    if detached then throw (.detachedMacro line name)
    if !(← register name) then throw (.macroTaken line name)
    append line text (.assign plugin command (String.ofList params) name "")
  | .command plugin command params => do
    let (params, detached) := splitDetached params.toList
    append line text (.command plugin command (String.ofList params) detached)
  | .jump condition target => append line text (.jump condition target)
  | .label name => append line text (.label name)

/-- Expand, classify and add a line. -/
def push (l : Line) : Building Unit := do
  let text := (← get).macros.expand l.text
  match Statement.parse? text with
  | none => throw (.invalidStatement l.number text)
  | some s => add l.number text s

/-- How something ended, and the program by then. -/
def ending : EStateM.Result ScriptError Program α → Except ScriptError α × Program
  | .ok a p => (.ok a, p)
  | .error e p => (.error e, p)

def attempt (l : Line) (p : Program) : Except ScriptError Unit × Program := ending (push l p)

/-- Push every line, also after lines that failed. -/
def pushEach : List Line → Program → List (Except ScriptError Unit) × Program
  | [], p => ([], p)
  | l :: ls, p =>
    let (outcome, p) := attempt l p
    let (outcomes, built) := pushEach ls p
    (outcome :: outcomes, built)

end Building

end RigScript
