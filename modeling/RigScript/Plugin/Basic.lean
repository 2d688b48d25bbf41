import RigScript.NameMap
import RigScript.Text.Quoted

/-! ## Plugins

A plugin brings commands to a script. What its hooks and handlers do is not known to the engine:
they read and change a *world* `ω` that all plugins share, so that an answer may depend on
everything that has happened before. Argument checks see their text alone. -/

namespace RigScript

/-- What a command answers: its result, or the reason of its failure. -/
abbrev Reply := Except String String

/-- What becomes of a command on a worker. -/
inductive Outcome where
  | done (text : String)
  | failed (reason : String)
  /-- The worker broke down on the way. -/
  | crashed
  deriving DecidableEq, Repr

def Outcome.ofReply : Reply → Outcome
  | .ok text => .done text
  | .error reason => .failed reason

/-- The implementation of a command. It is given the parameters with their macros expanded. -/
structure Handler (ω : Type) where
  /-- Run the command and wait for it. -/
  call : String → StateM ω Reply
  /-- Run the command on a worker. -/
  job : String → StateM ω Outcome := fun params => Outcome.ofReply <$> call params

/-- Decides whether a text will do as the parameters of a command. -/
abbrev ArgumentCheck := String → Except String Unit

/-- The commands of a plugin by name, and the checks of their parameters. A command without a
check takes any parameters. -/
structure CommandTable (ω : Type) where
  handlers : NameMap (Handler ω) := {}
  checks : NameMap ArgumentCheck := {}

namespace CommandTable

def register (t : CommandTable ω) (name : String) (h : Handler ω) : CommandTable ω :=
  { t with handlers := t.handlers.insert name h }

def registerCheck (t : CommandTable ω) (name : String) (c : ArgumentCheck) : CommandTable ω :=
  { t with checks := t.checks.insert name c }

def handler? (t : CommandTable ω) (name : String) : Option (Handler ω) := t.handlers.find? name

def check? (t : CommandTable ω) (name : String) : Option ArgumentCheck := t.checks.find? name

def contains (t : CommandTable ω) (name : String) : Bool := t.handlers.contains name

def names (t : CommandTable ω) : List String := t.handlers.names

def size (t : CommandTable ω) : Nat := t.handlers.size

/-- The commands as a text for someone who looks for a fault. -/
def describe (t : CommandTable ω) : String := Text.quotedSet t.names

theorem contains_eq_isSome (t : CommandTable ω) (name : String) :
    t.contains name = (t.handler? name).isSome := rfl

@[simp] theorem handler?_register (t : CommandTable ω) (name name' : String) (h : Handler ω) :
    (t.register name h).handler? name' = if name' = name then some h else t.handler? name' :=
  NameMap.find?_insert t.handlers name name' h

@[simp] theorem check?_register (t : CommandTable ω) (name name' : String) (h : Handler ω) :
    (t.register name h).check? name' = t.check? name' := rfl

end CommandTable

/-- A plugin. Its version, its commands and its flags may change with the world. -/
structure Plugin (ω : Type) where
  /-- What the plugin calls itself; a script may know it by another name. -/
  model : String
  version : ω → String
  commands : ω → CommandTable ω
  /-- Is it ready to run commands? -/
  isEnabled : ω → Bool := fun _ => true
  /-- May a script go on when a command fails? -/
  isFaultTolerant : ω → Bool := fun _ => false
  /-- Take over settings, each a name and a text. -/
  configure : List (String × String) → StateM ω (Except String Unit) := fun _ => pure (.ok ())
  /-- Bring up what the commands need. -/
  init : StateM ω (Except String Unit) := pure (.ok ())
  /-- Get ready to run commands. -/
  enable : StateM ω Unit := pure ()

/-- What the settings say about a plugin. -/
structure Overrides where
  /-- Takes the place of the plugin's own flag. -/
  faultTolerant : Option Bool := none
  /-- Takes the place of the plugin's own flag. -/
  enabled : Option Bool := none
  settings : List (String × String) := []
  deriving DecidableEq, Repr

/-! ## Libraries

A plugin may come from a library, which is opened under a path. A library has a constructor and a
destructor, each found under the name of a symbol. -/

structure Library (ω : Type) where
  /-- The constructor of that name; it may yield no plugin. -/
  constructor? : String → Option (StateM ω (Option (Plugin ω)))
  destructor? : String → Option (StateM ω Unit)

/-- What opens libraries: for a path a library, or a reason why there is none. -/
abbrev LibrarySource (ω : Type) := String → Except String (Library ω)

end RigScript
