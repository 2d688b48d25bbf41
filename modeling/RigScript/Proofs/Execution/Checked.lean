import RigScript.Proofs.Execution.Code
import RigScript.Proofs.Execution.DryRun
import RigScript.Proofs.Plugin.CrossCheck

/-! ## Execution of checked programs

A program is checked twice before anything is run: for its control flow when it is built, and for
the commands that it addresses when its plugins are there. This file shows what the checks are
good for. Whatever the handlers do and wherever the jumps lead, an execution cannot miss a plugin,
a command or a label; it stops early only over a condition, or over a plugin that is not fault
tolerant. -/

namespace RigScript

/-- What the checks establish. -/
structure Checked (handles : List (Handle ω)) (p : Program) : Prop where
  offered : ∀ s ∈ p.steps, ∀ plugin command, s.entry.target? = some (plugin, command) →
    Offered handles plugin command
  labelled : ∀ s ∈ p.steps, ∀ condition target, s.entry = .jump condition target →
    ∃ place, p.labelIndex? target = some place

/-- The plugin is in use and not fault tolerant. -/
def Strict (handles : List (Handle ω)) (plugin : String) : Prop :=
  ∃ h, Registry.findIn handles plugin = some h ∧ h.faultTolerant = false

/-- A fault that shows only when the program is executed. -/
inductive LateFault (handles : List (Handle ω)) (p : Program) : ExecError → Prop where
  | malformedCondition {s : Step} {condition target : String} {macros : MacroTable}
      {cause : ConditionError} (hs : s ∈ p.steps) (hentry : s.entry = .jump condition target)
      (hvalue : Condition.evaluate (macros.expand condition) = .error cause) :
      LateFault handles p (.malformedCondition s.line (macros.expand condition) cause)
  | pluginNotReady {s : Step} {plugin command : String} (hs : s ∈ p.steps)
      (htarget : s.entry.target? = some (plugin, command)) (hstrict : Strict handles plugin) :
      LateFault handles p (.pluginNotReady s.line plugin)
  | commandFailed {s : Step} {plugin command params reason : String} (hs : s ∈ p.steps)
      (htarget : s.entry.target? = some (plugin, command)) (hstrict : Strict handles plugin) :
      LateFault handles p (.commandFailed s.line (commandText plugin command params) reason)

/-! ### The code decides -/

section Code

variable {handles : List (Handle ω)} {p q : Program} (hcode : q.code = p.code)
include hcode

theorem Checked.of_code (h : Checked handles p) : Checked handles q where
  offered := by
    intro s hs plugin command htarget
    obtain ⟨s', hs', heq⟩ := Program.exists_mem_of_code hcode hs
    apply h.offered s' hs'
    rw [Step.target?_of_code heq]
    exact htarget
  labelled := by
    intro s hs condition target hentry
    obtain ⟨s', hs', heq⟩ := Program.exists_mem_of_code hcode hs
    rw [Program.labelIndex?_of_code hcode]
    exact h.labelled s' hs' condition target (Step.jump_of_code heq hentry)

theorem LateFault.of_code {e : ExecError} (h : LateFault handles q e) : LateFault handles p e := by
  cases h with
  | malformedCondition hs hentry hvalue =>
      obtain ⟨s', hs', heq⟩ := Program.exists_mem_of_code hcode hs
      rw [← Step.line_of_code heq]
      exact .malformedCondition hs' (Step.jump_of_code heq hentry) hvalue
  | pluginNotReady hs htarget hstrict =>
      obtain ⟨s', hs', heq⟩ := Program.exists_mem_of_code hcode hs
      rw [← Step.line_of_code heq]
      exact .pluginNotReady hs' ((Step.target?_of_code heq).trans htarget) hstrict
  | commandFailed hs htarget hstrict =>
      obtain ⟨s', hs', heq⟩ := Program.exists_mem_of_code hcode hs
      rw [← Step.line_of_code heq]
      exact .commandFailed hs' ((Step.target?_of_code heq).trans htarget) hstrict

end Code

/-! ### Steps -/

namespace Machine

variable {handles : List (Handle ω)} {m m' : Machine ω}

section Dispatch

variable {line delay : Nat} {plugin command params : String}

theorem Resolved.strict (hoffered : Offered handles plugin command) {e : ExecError}
    (h : Resolved handles line plugin command m (.error e m')) :
    Strict handles plugin ∧ e = .pluginNotReady line plugin := by
  obtain ⟨g, hfind, hoffer⟩ := hoffered
  -- The cross-check has looked up the same plugin and asked for the same command.
  cases h with
  | unknown hnone =>
      rw [hfind] at hnone
      cases hnone
  | unsupported hfind' hhandler hstrict =>
      rw [hfind] at hfind'
      cases hfind'
      rw [CommandTable.contains_eq_isSome, hhandler, hstrict] at hoffer
      simp at hoffer
  | notReady hfind' _ hstrict _ => exact ⟨⟨_, hfind', hstrict⟩, rfl⟩

/-- A command that is offered fails only if its plugin is not fault tolerant. -/
theorem Dispatched.strict (hoffered : Offered handles plugin command) {e : ExecError}
    (h : Dispatched handles line plugin command m delay params (.error e m')) :
    Strict handles plugin ∧ (e = .pluginNotReady line plugin ∨
      ∃ expanded reason, e = .commandFailed line (commandText plugin command expanded) reason) := by
  cases h with
  | refused hresolved =>
      obtain ⟨hstrict, rfl⟩ := hresolved.strict hoffered
      exact ⟨hstrict, .inl rfl⟩
  | failed hresolved _ _ hstrict =>
      cases hresolved with
      | found hfind _ _ => exact ⟨⟨_, hfind, hstrict⟩, .inr ⟨_, _, rfl⟩⟩

end Dispatch

theorem Stepped.lateFault (hchecked : Checked handles m.program) {delay place : Nat} {s : Step}
    (hs : s ∈ m.program.steps) {e : ExecError}
    (h : Stepped handles delay place s m (.error e m')) : LateFault handles m.program e := by
  have hdispatched : ∀ plugin command, s.entry.target? = some (plugin, command) →
      Strict handles plugin → (e = .pluginNotReady s.line plugin ∨ ∃ expanded reason,
        e = .commandFailed s.line (commandText plugin command expanded) reason) →
      LateFault handles m.program e := by
    rintro plugin command htarget hstrict (rfl | ⟨expanded, reason, rfl⟩)
    · exact .pluginNotReady hs htarget hstrict
    · exact .commandFailed hs htarget hstrict
  cases h with
  | @commandFault plugin command _ _ _ hentry hdispatch =>
      have htarget : s.entry.target? = some (plugin, command) := by rw [hentry]; rfl
      obtain ⟨hstrict, hfault⟩ := hdispatch.strict (hchecked.offered s hs _ _ htarget)
      exact hdispatched plugin command htarget hstrict hfault
  | @assignFault plugin command _ _ _ _ _ hentry hdispatch =>
      have htarget : s.entry.target? = some (plugin, command) := by rw [hentry]; rfl
      obtain ⟨hstrict, hfault⟩ := hdispatch.strict (hchecked.offered s hs _ _ htarget)
      exact hdispatched plugin command htarget hstrict hfault
  | @detachedFault plugin command _ _ _ hentry hdispatch =>
      have htarget : s.entry.target? = some (plugin, command) := by rw [hentry]; rfl
      cases hdispatch with
      | refused hresolved =>
          obtain ⟨hstrict, hfault⟩ := hresolved.strict (hchecked.offered s hs _ _ htarget)
          exact hdispatched plugin command htarget hstrict (.inl hfault)
  | jump hentry hjump =>
      cases hjump with
      | malformed hexpanded hvalue =>
          subst hexpanded
          exact .malformedCondition hs hentry hvalue
      | unknownLabel _ hlabel =>
          -- Labels are looked up in the program as it is now, and they have kept their places.
          obtain ⟨place, hplace⟩ := hchecked.labelled s hs _ _ hentry
          rw [hplace] at hlabel
          cases hlabel

/-! ### Runs -/

/-- Wherever the jumps lead, a checked program fails in no other way. -/
theorem run_lateFault {p : Program} (hchecked : Checked handles p)
    (hcode : m.program.code = p.code) {delay fuel : Nat} {e : ExecError}
    (h : m.run handles delay fuel = some (.error e, m')) : LateFault handles p e := by
  have hrun : ∀ e', (Except.error e : Ending) = .error e' → LateFault handles p e' := by
    -- The code is the invariant: no step changes it, and the checks depend on nothing else.
    refine runFrom_induction (I := fun _ m => m.program.code = p.code)
      (Q := fun ending _ => ∀ e', ending = .error e' → LateFault handles p e') ?_ ?_ ?_ hcode h
    · intro _ _ _ _ _ hfault
      cases hfault
    · intro _ _ _ _ _ hcode _ hstep
      exact hstep.code_eq.trans hcode
    · intro _ m s e m' hcode hs hstep e' hfault
      cases hfault
      have hcode' : (m.withSession (·.tick)).program.code = p.code := hcode
      exact (hstep.lateFault (hchecked.of_code hcode') (List.mem_of_getElem? hs)).of_code hcode'
  exact hrun e rfl

end Machine

/-! ### The dry run -/

namespace Execution

variable {handles : List (Handle ω)} {session session' : Session ω} {e : ExecError}

/-- The entry addresses a plugin that is not fault tolerant with parameters that will not do. -/
def WrongArguments (handles : List (Handle ω)) (s : Step) (e : ExecError) : Prop :=
  ∃ plugin command params reason, s.entry.target? = some (plugin, command) ∧
    Strict handles plugin ∧
    e = .invalidArguments s.line (commandText plugin command params) reason

theorem wrongArguments_of_dryStep {macros : MacroTable} {s : Step}
    (hoffered : ∀ plugin command, s.entry.target? = some (plugin, command) →
      Offered handles plugin command)
    (h : dryStep handles macros s session = .error e session') : WrongArguments handles s e := by
  rw [dryStep_eq] at h
  cases hrequest : s.entry.request? with
  | none =>
      rw [hrequest] at h
      cases h
  | some request =>
      obtain ⟨plugin, command, params⟩ := request
      have htarget : s.entry.target? = some (plugin, command) := by
        rw [Entry.target?_eq_map_request?, hrequest]
        rfl
      obtain ⟨g, hfind, hoffer⟩ := hoffered plugin command htarget
      have hchecked := dryCommand_dryChecked handles macros s.line plugin command params session
      simp only [hrequest] at h
      rw [h] at hchecked
      cases hchecked with
      | unknown hnone =>
          rw [hfind] at hnone
          cases hnone
      | unsupported hfind' hmissing hstrict =>
          rw [hfind] at hfind'
          cases hfind'
          rw [hmissing, hstrict] at hoffer
          simp at hoffer
      | rejected hfind' _ _ _ _ hstrict he =>
          rw [Registry.name_of_findIn hfind'] at he
          exact ⟨plugin, command, _, _, htarget, ⟨_, hfind', hstrict⟩, he⟩

theorem wrongArguments_of_dryEach {macros : MacroTable} {steps : List Step}
    (hoffered : ∀ s ∈ steps, ∀ plugin command, s.entry.target? = some (plugin, command) →
      Offered handles plugin command)
    (h : dryEach handles macros steps session = .error e session') :
    ∃ s ∈ steps, WrongArguments handles s e := by
  induction steps generalizing session with
  | nil => cases h
  | cons s steps ih =>
      rcases Action.bind_eq_error_iff.1 h with hstep | ⟨n, session₁, -, hrest⟩
      · exact ⟨s, List.mem_cons_self,
          wrongArguments_of_dryStep (hoffered s List.mem_cons_self) hstep⟩
      · rcases Action.bind_eq_error_iff.1 hrest with hrest | ⟨k, session₂, -, hpure⟩
        · obtain ⟨s', hs', hwrong⟩ :=
            ih (fun s' hs' => hoffered s' (List.mem_cons_of_mem s hs')) hrest
          exact ⟨s', List.mem_cons_of_mem s hs', hwrong⟩
        · cases hpure

/-- The dry run of a checked program fails over parameters only. -/
theorem wrongArguments_of_dryRun {p : Program} (hchecked : Checked handles p)
    (h : dryRun handles p session = .error e session') :
    ∃ s ∈ p.steps, WrongArguments handles s e := by
  rcases Action.bind_eq_error_iff.1 h with heach | ⟨n, session₁, -, hnote⟩
  · exact wrongArguments_of_dryEach hchecked.offered heach
  · cases hnote

end Execution

/-! ### From the checks to the execution -/

/-- Building a program and comparing it with its plugins makes it checked, and enabling the plugins
leaves it so. -/
theorem checked_of_checks {lines : List Line} {p : Program} (hlines : Program.ofLines lines = .ok p)
    {l : Loader ω} {overrides : String → Option Overrides} {r₀ r : Registry ω}
    (hload : (do Registry.loadProgram p l overrides; Registry.crossCheck p) r₀ = .ok () r)
    {handles : List (Handle ω)} (hreadied : Registry.Readied r.handles handles) :
    Checked handles p where
  offered := by
    obtain ⟨_, r₁, -, hcross⟩ := Action.bind_eq_ok_iff.1 hload
    intro s hs plugin command htarget
    exact (Registry.offered_of_crossCheck hcross s hs plugin command htarget).of_readied hreadied
  labelled := by
    obtain ⟨-, hflow, -⟩ := Program.ofLines_eq_ok_iff.1 hlines
    intro s hs condition target hentry
    exact Program.exists_labelIndex?_of_checkControlFlow hflow hs hentry

/-- A program that has passed its checks does not miss a plugin, a command or a label. Its dry run
fails over the parameters of a plugin that is not fault tolerant, and a run that ends comes to the
end of the program or fails late; if all plugins are fault tolerant, only a condition can stop it.
The same holds of the program that an earlier run has left, for it has the same code. -/
theorem checks_sound {lines : List Line} {p : Program} (hlines : Program.ofLines lines = .ok p)
    {l : Loader ω} {overrides : String → Option Overrides} {r₀ r : Registry ω}
    (hload : (do Registry.loadProgram p l overrides; Registry.crossCheck p) r₀ = .ok () r)
    {handles : List (Handle ω)} (hreadied : Registry.Readied r.handles handles) {q : Program}
    (hcode : q.code = p.code) :
    (∀ session e session', Execution.dryRun handles q session = .error e session' →
      ∃ s ∈ p.steps, Execution.WrongArguments handles s e) ∧
    (∀ session stats delay fuel ending m',
      Machine.run { program := q, stats, session } handles delay fuel = some (ending, m') →
        (∃ stats', ending = .ok stats') ∨ ∃ e, ending = .error e ∧ LateFault handles p e) ∧
    ((∀ s ∈ p.steps, ∀ plugin command, s.entry.target? = some (plugin, command) →
        ¬ Strict handles plugin) →
      ∀ session stats delay fuel e m',
        Machine.run { program := q, stats, session } handles delay fuel = some (.error e, m') →
          ∃ line condition cause, e = .malformedCondition line condition cause) := by
  have hchecked : Checked handles p := checked_of_checks hlines hload hreadied
  refine ⟨?_, ?_, ?_⟩
  · intro session e session' h
    obtain ⟨s, hs, hwrong⟩ := Execution.wrongArguments_of_dryRun (hchecked.of_code hcode) h
    obtain ⟨s', hs', heq⟩ := Program.exists_mem_of_code hcode hs
    refine ⟨s', hs', ?_⟩
    unfold Execution.WrongArguments
    rw [Step.target?_of_code heq, Step.line_of_code heq]
    exact hwrong
  · intro session stats delay fuel ending m' h
    cases ending with
    | ok stats' => exact .inl ⟨stats', rfl⟩
    | error e => exact .inr ⟨e, rfl, Machine.run_lateFault hchecked hcode h⟩
  · intro htolerant session stats delay fuel e m' h
    cases Machine.run_lateFault hchecked hcode h with
    | malformedCondition _ _ _ => exact ⟨_, _, _, rfl⟩
    | pluginNotReady hs htarget hstrict => exact absurd hstrict (htolerant _ hs _ _ htarget)
    | commandFailed hs htarget hstrict => exact absurd hstrict (htolerant _ hs _ _ htarget)

/-- A script that runs its only command over and over. -/
def pressLines : List Line :=
  [⟨1, "LOAD_PLUGIN RIG"⟩, ⟨2, "GOTO AGAIN"⟩, ⟨3, "LABEL AGAIN"⟩, ⟨4, "RIG.PRESS 5"⟩,
    ⟨5, "GOTO AGAIN"⟩]

def pressProgram : Program where
  required := [⟨"RIG", none, 1⟩]
  steps :=
    [⟨2, "GOTO AGAIN", .jump "TRUE" "AGAIN"⟩, ⟨3, "LABEL AGAIN", .label "AGAIN"⟩,
      ⟨4, "RIG.PRESS 5", .command "RIG" "PRESS" "5" false⟩,
      ⟨5, "GOTO AGAIN", .jump "TRUE" "AGAIN"⟩]

/-- A plugin with a command that does not work. -/
def brokenPress : Handle Unit where
  name := "RIG"
  plugin := { model := "Press", version := fun _ => "1.0.0.0", commands := fun _ => {} }
  commands := CommandTable.register {} "PRESS" { call := fun _ => pure (.error "stuck") }
  enabled := true

/-- The loading and the comparison of its commands. -/
def pressLoading : Registering LoadError Unit Unit := do
  Registry.loadProgram pressProgram ⟨{}, fun _ => .error "not found"⟩ (fun _ => none)
  Registry.crossCheck pressProgram

theorem checks_sound_press :
    Program.ofLines pressLines = .ok pressProgram ∧
    ∃ r, pressLoading { handles := [brokenPress], session := { world := () } } = .ok () r ∧
      ∀ session stats delay fuel ending m',
        Machine.run { program := pressProgram, stats, session } r.handles delay fuel =
          some (ending, m') →
        (∃ stats', ending = .ok stats') ∨
          ∃ e, ending = .error e ∧ LateFault r.handles pressProgram e := by
  have hlines : Program.ofLines pressLines = .ok pressProgram := rfl
  obtain ⟨r, hload⟩ :
      ∃ r, pressLoading { handles := [brokenPress], session := { world := () } } = .ok () r :=
    ⟨_, rfl⟩
  exact ⟨hlines, r, hload, (checks_sound hlines hload (.refl _) rfl).2.1⟩

end RigScript
