import RigScript.Execution.DryRun
import RigScript.Proofs.Session.Trace

/-! ## What a step of the dry run can do

As for executions, the ways in which the dry run of a step can end are listed once, with the
session afterwards. -/

namespace RigScript

/-- The plugin, the command and the parameters of an entry. -/
def Entry.request? : Entry → Option (String × String × String)
  | .command plugin verb params _ => some (plugin, verb, params)
  | .assign plugin verb params _ _ => some (plugin, verb, params)
  | .jump .. | .label _ => none

theorem Entry.target?_eq_map_request? (e : Entry) :
    e.target? = e.request?.map fun (plugin, verb, _) => (plugin, verb) := by
  cases e <;> rfl

namespace Execution

variable {ω : Type} (handles : List (Handle ω)) (macros : MacroTable)

section Command

variable (line : Nat) (plugin command params : String) (session : Session ω)

/-- The dry run of a command. -/
def dryCommand : Action ExecError ω Nat := do
  match Registry.findIn handles plugin with
  | none => throw (.unknownPlugin line plugin)
  | some h =>
    if h.commands.contains command then
      match h.commands.check? command with
      | none => return 1
      | some check =>
        checkArguments h line command (macros.expand params) check
        return 1
    else if h.faultTolerant then return 0
    else throw (.unsupportedCommand line plugin command)

/-- The start of what the log says about the parameters of a command. -/
def checkMark (h : Handle ω) (line : Nat) (command params : String) : String :=
  ScriptError.lineMark line ++ "[" ++ commandText h.name command params ++ "] "

/-- The session after parameters were put to their check. -/
def checkedSession (h : Handle ω) (command params : String) (session : Session ω) : Session ω :=
  session.record (.checked ⟨h.identity, command, params⟩)

/-- How the dry run of a command ends. -/
inductive DryChecked : EStateM.Result ExecError (Session ω) Nat → Prop where
  | unknown (hfind : Registry.findIn handles plugin = none) :
      DryChecked (.error (.unknownPlugin line plugin) session)
  | ignored {h : Handle ω} (hfind : Registry.findIn handles plugin = some h)
      (hmissing : h.commands.contains command = false) (htolerant : h.faultTolerant = true) :
      DryChecked (.ok 0 session)
  | unsupported {h : Handle ω} (hfind : Registry.findIn handles plugin = some h)
      (hmissing : h.commands.contains command = false) (hstrict : h.faultTolerant = false) :
      DryChecked (.error (.unsupportedCommand line plugin command) session)
  | unchecked {h : Handle ω} (hfind : Registry.findIn handles plugin = some h)
      (hcontains : h.commands.contains command = true)
      (hcheck : h.commands.check? command = none) : DryChecked (.ok 1 session)
  | accepted {h : Handle ω} {check : ArgumentCheck} {expanded : String}
      (hfind : Registry.findIn handles plugin = some h)
      (hcontains : h.commands.contains command = true)
      (hcheck : h.commands.check? command = some check)
      (hexpanded : expanded = macros.expand params) (haccept : check expanded = .ok ()) :
      DryChecked (.ok 1 ((checkedSession h command expanded session).note .trace
        (checkMark h line command expanded ++ "-> arguments OK")))
  | tolerated {h : Handle ω} {check : ArgumentCheck} {expanded reason : String}
      (hfind : Registry.findIn handles plugin = some h)
      (hcontains : h.commands.contains command = true)
      (hcheck : h.commands.check? command = some check)
      (hexpanded : expanded = macros.expand params) (hreject : check expanded = .error reason)
      (htolerant : h.faultTolerant = true) :
      DryChecked (.ok 1 ((checkedSession h command expanded session).note .warn
        (checkMark h line command expanded ++ "invalid arguments (" ++ reason ++
          "), fault tolerant, continuing")))
  | rejected {h : Handle ω} {check : ArgumentCheck} {expanded reason : String} {e : ExecError}
      (hfind : Registry.findIn handles plugin = some h)
      (hcontains : h.commands.contains command = true)
      (hcheck : h.commands.check? command = some check)
      (hexpanded : expanded = macros.expand params) (hreject : check expanded = .error reason)
      (hstrict : h.faultTolerant = false)
      (he : e = .invalidArguments line (commandText h.name command expanded) reason) :
      DryChecked (.error e ((checkedSession h command expanded session).note .error e.message))

theorem checkArguments_apply (h : Handle ω) (check : ArgumentCheck) :
    checkArguments h line command params check session =
      match check params with
      | .ok () => .ok () ((checkedSession h command params session).note .trace
          (checkMark h line command params ++ "-> arguments OK"))
      | .error reason =>
        if h.faultTolerant then
          .ok () ((checkedSession h command params session).note .warn
            (checkMark h line command params ++ "invalid arguments (" ++ reason ++
              "), fault tolerant, continuing"))
        else
          let e := ExecError.invalidArguments line (commandText h.name command params) reason
          .error e ((checkedSession h command params session).note .error e.message) := by
  have hrecord : (Action.record (.checked ⟨h.identity, command, params⟩) :
      Action ExecError ω Unit) session = .ok () (checkedSession h command params session) := rfl
  unfold checkArguments
  rw [Action.bind_of_ok hrecord]
  cases check params with
  | ok u => rfl
  | error reason => cases h.faultTolerant <;> rfl

theorem dryCommand_dryChecked :
    DryChecked handles macros line plugin command params session
      (dryCommand handles macros line plugin command params session) := by
  unfold dryCommand
  cases hfind : Registry.findIn handles plugin with
  | none => exact .unknown hfind
  | some h =>
      cases hcontains : h.commands.contains command with
      | false =>
          cases htolerant : h.faultTolerant with
          | true =>
              simp only [hcontains, htolerant, Bool.false_eq_true, if_false, if_true]
              exact .ignored hfind hcontains htolerant
          | false =>
              simp only [hcontains, htolerant, Bool.false_eq_true, if_false]
              exact .unsupported hfind hcontains htolerant
      | true =>
          cases hcheck : h.commands.check? command with
          | none =>
              simp only [hcontains, hcheck, if_true]
              exact .unchecked hfind hcontains hcheck
          | some check =>
              simp only [hcontains, hcheck, if_true]
              -- The check is asked once, for the parameters with their macros expanded.
              have happly :=
                checkArguments_apply line command (macros.expand params) session h check
              cases hresult : check (macros.expand params) with
              | ok =>
                  rw [hresult] at happly
                  rw [Action.bind_of_ok happly]
                  exact .accepted hfind hcontains hcheck rfl hresult
              | error reason =>
                  cases htolerant : h.faultTolerant with
                  | true =>
                      simp only [hresult, htolerant, if_true] at happly
                      rw [Action.bind_of_ok happly]
                      exact .tolerated hfind hcontains hcheck rfl hresult htolerant
                  | false =>
                      simp only [hresult, htolerant, Bool.false_eq_true, if_false] at happly
                      rw [Action.bind_of_error happly]
                      exact .rejected hfind hcontains hcheck rfl hresult htolerant rfl

end Command

theorem DryChecked.adds {line : Nat} {plugin command params : String} {session : Session ω}
    {result : EStateM.Result ExecError (Session ω) Nat}
    (h : DryChecked handles macros line plugin command params session result) :
    ∃ checks, Session.Adds session checks (Action.state result) ∧
      ∀ e ∈ checks, e.phase? = some .checking := by
  have hchecked : ∀ (h : Handle ω) (text : String),
      Session.Adds session [.checked ⟨h.identity, command, text⟩]
        (checkedSession h command text session) := fun _ _ => (Session.Adds.refl session).record _
  cases h with
  | accepted _ _ _ _ _ => exact ⟨_, (hchecked _ _).note _ _, by simp [Event.phase?]⟩
  | tolerated _ _ _ _ _ _ => exact ⟨_, (hchecked _ _).note _ _, by simp [Event.phase?]⟩
  | rejected _ _ _ _ _ _ _ => exact ⟨_, (hchecked _ _).note _ _, by simp [Event.phase?]⟩
  | _ => exact ⟨[], .refl session, by simp⟩

theorem dryStep_eq (s : Step) :
    dryStep handles macros s =
      match s.entry.request? with
      | none => pure 0
      | some (plugin, command, params) =>
        dryCommand handles macros s.line plugin command params := by
  unfold dryStep
  cases s.entry <;> rfl

/-! ### What a dry run writes -/

theorem adds_dryStep (s : Step) (session : Session ω) :
    ∃ checks, Session.Adds session checks (Action.state (dryStep handles macros s session)) ∧
      ∀ e ∈ checks, e.phase? = some .checking := by
  rw [dryStep_eq]
  cases s.entry.request? with
  | none => exact ⟨[], .refl session, by simp⟩
  | some request =>
      obtain ⟨plugin, command, params⟩ := request
      exact (dryCommand_dryChecked handles macros s.line plugin command params session).adds

theorem adds_dryEach (steps : List Step) (session : Session ω) :
    ∃ checks, Session.Adds session checks (Action.state (dryEach handles macros steps session)) ∧
      ∀ e ∈ checks, e.phase? = some .checking := by
  induction steps generalizing session with
  | nil => exact ⟨[], .refl session, by simp⟩
  | cons s steps ih =>
      obtain ⟨checks, hadds, hchecks⟩ := adds_dryStep handles macros s session
      rw [dryEach]
      cases hstep : dryStep handles macros s session with
      | error e session₁ =>
          rw [hstep] at hadds
          rw [Action.bind_of_error hstep]
          exact ⟨checks, hadds, hchecks⟩
      | ok n session₁ =>
          rw [hstep] at hadds
          obtain ⟨checks₁, hadds₁, hchecks₁⟩ := ih session₁
          refine ⟨checks ++ checks₁, ?_, ?_⟩
          · rw [Action.bind_of_ok hstep]
            -- What follows is the count of the commands.
            exact hadds.trans (hadds₁.bind fun _ _ => .refl _)
          · intro e he
            exact (List.mem_append.1 he).elim (hchecks e) (hchecks₁ e)

/-- A dry run puts parameters to their checks, and asks nothing else of plugins. -/
theorem adds_dryRun (p : Program) (session : Session ω) :
    ∃ checks, Session.Adds session checks (Action.state (dryRun handles p session)) ∧
      ∀ e ∈ checks, e.phase? = some .checking := by
  obtain ⟨checks, hadds, hchecks⟩ := adds_dryEach handles p.macros p.steps session
  exact ⟨checks, hadds.bind fun _ s₁ => (Session.Adds.refl s₁).note _ _, hchecks⟩

end Execution

end RigScript
