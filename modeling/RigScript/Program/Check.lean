import RigScript.Log
import RigScript.Program.Basic
import RigScript.Script.Error

/-! ## Checks on a whole program

Jumps lead forward to labels that are set once, and commands address declared plugins. -/

namespace RigScript.Program

/-! ## Control flow -/

/-- The jumps seen so far, each label once, with the line of the first jump to it. -/
abbrev Targets := List (String × Nat)

def Targets.note (seen : Targets) (label : String) (line : Nat) : Targets :=
  if seen.any (·.1 == label) then seen else seen ++ [(label, line)]

/-- Go through the entries with the jumps and the labels that stand before them. A label needs a
jump before it and none of its name; in the end every jump needs its label, and of the jumps
that lack theirs the first one counts. -/
def checkFlow : Targets → List String → List Step → Except ScriptError Unit
  | seen, set, [] =>
    match seen.find? (fun t => !set.contains t.1) with
    | some (label, line) => .error (.labelMissing line label)
    | none => .ok ()
  | seen, set, s :: rest =>
    match s.entry with
    | .jump _ target => checkFlow (seen.note target s.line) set rest
    | .label name =>
      -- A label that is set twice without a jump before it counts as the former fault.
      if !seen.any (·.1 == name) then .error (.orphanLabel s.line name)
      else if set.contains name then .error (.labelRepeated s.line name)
      else checkFlow seen (name :: set) rest
    | .command .. | .assign .. => checkFlow seen set rest

/-- Every label stands after a jump to it and is set once, and every jump has its label. -/
def checkControlFlow (p : Program) : Except ScriptError Unit := checkFlow [] [] p.steps

/-! ## Plugins -/

/-- The plugins that are addressed and not declared. -/
def missing (p : Program) : List String := p.referenced.filter (!p.declared.contains ·)

/-- The plugins that are declared and not addressed. -/
def unused (p : Program) : List String := p.declared.filter (!p.referenced.contains ·)

def checkPlugins (p : Program) : Except ScriptError Unit :=
  if p.missing.isEmpty then .ok () else .error (.pluginsMissing p.missing)

/-- What the log says about plugins that are declared and not addressed. -/
def pluginsLog (p : Program) : List LogLine :=
  if p.missing.isEmpty then
    p.unused.map fun name => ⟨.warn, "Plugin " ++ name ++ " is loaded but never used"⟩
  else []

end RigScript.Program
