import RigScript.Execution.Machine
import RigScript.Proofs.Plugin.Action

/-! ## What a step can do

Everything that is said about executions goes back to this file. For each operation it lists the
ways in which it can end, with what is known in each case and with the machine afterwards. Nothing
further on looks into the operations themselves. -/

namespace RigScript.Machine

variable {ω : Type}

/-! ### Machines after an operation -/

def noted (m : Machine ω) (severity : Severity) (text : String) : Machine ω :=
  m.withSession (·.note severity text)

/-- The machine after a failure that the script goes on after. -/
def recovered (m : Machine ω) : Machine ω :=
  { m with stats := { m.stats with recovered := m.stats.recovered + 1 } }

/-- The machine after the pause before a command. -/
def paced (m : Machine ω) (delay : Nat) : Machine ω :=
  { m with stats :=
    { m.stats with
      pauses :=
        if m.stats.executed = 0 || delay = 0 then m.stats.pauses else m.stats.pauses + 1
      executed := m.stats.executed + 1 } }

/-- The machine after a command that the plugin lacks. -/
def skipped (m : Machine ω) (line : Nat) (plugin command : String) : Machine ω :=
  (m.noted .warn (ScriptError.lineMark line ++ plugin ++ "." ++ command ++
    " not supported, skipped")).recovered

/-- What a handler replies. -/
def reply (m : Machine ω) (handler : Handler ω) (params : String) : Reply :=
  (m.session.act (handler.call params)).1

def called (m : Machine ω) (delay : Nat) (h : Handle ω) (handler : Handler ω)
    (command params : String) : Machine ω :=
  (m.paced delay).withSession fun session =>
    ((session.record (.called ⟨h.identity, command, params⟩)).act (handler.call params)).2

/-- The machine after a command was handed to the workers. -/
def spawned (m : Machine ω) (delay line : Nat) (h : Handle ω) (handler : Handler ω)
    (plugin command params : String) : Machine ω :=
  let label := ScriptError.lineMark line ++ plugin ++ "." ++ command ++ " " ++ params
  let m := m.paced delay
  let m := { m with stats := { m.stats with detached := m.stats.detached + 1 } }
  (m.noted .info (String.ofList (Text.trimEnd label.toList) ++ " -> detached")).withSession
    (·.spawn plugin label ⟨h.identity, command, params⟩ (handler.job params))

/-- The machine after a variable received a result. -/
def assigned (m : Machine ω) (place : Nat) (name result : String) : Machine ω :=
  { m with program :=
    { m.program with
      macros := m.program.macros.bind name result
      steps := m.program.steps.modify place fun s =>
        match s.entry with
        | .assign plugin command params variable_ _ =>
          { s with entry := .assign plugin command params variable_ result }
        | _ => s } }

def jumped (m : Machine ω) (line : Nat) (condition target : String) : Machine ω :=
  { m with stats := { m.stats with jumps := m.stats.jumps + 1 } }.noted .debug
    (ScriptError.lineMark line ++ "[" ++ condition ++ "] -> GOTO " ++ target)

/-! ### Dispatch -/

section Dispatch

variable (handles : List (Handle ω)) (line : Nat) (plugin command : String) (m : Machine ω)

/-- How the search for a handler ends. -/
inductive Resolved :
    EStateM.Result ExecError (Machine ω) (Option (Handle ω × Handler ω)) → Prop where
  | unknown (hfind : Registry.findIn handles plugin = none) :
      Resolved (.error (.unknownPlugin line plugin) m)
  | skipped {h : Handle ω} (hfind : Registry.findIn handles plugin = some h)
      (hhandler : h.commands.handler? command = none) (htolerant : h.faultTolerant = true) :
      Resolved (.ok none (m.skipped line plugin command))
  | unsupported {h : Handle ω} (hfind : Registry.findIn handles plugin = some h)
      (hhandler : h.commands.handler? command = none) (hstrict : h.faultTolerant = false) :
      Resolved (.error (.unsupportedCommand line plugin command) m)
  | notReady {h : Handle ω} {handler : Handler ω}
      (hfind : Registry.findIn handles plugin = some h)
      (hhandler : h.commands.handler? command = some handler) (hstrict : h.faultTolerant = false)
      (hdisabled : h.enabled = false) :
      Resolved (.error (.pluginNotReady line plugin) m)
  | found {h : Handle ω} {handler : Handler ω}
      (hfind : Registry.findIn handles plugin = some h)
      (hhandler : h.commands.handler? command = some handler)
      (hready : h.enabled = true ∨ h.faultTolerant = true) :
      Resolved (.ok (some (h, handler)) m)

theorem resolve_resolved :
    Resolved handles line plugin command m (resolve handles line plugin command m) := by
  unfold resolve
  cases hfind : Registry.findIn handles plugin with
  | none => exact .unknown hfind
  | some h =>
      cases hhandler : h.commands.handler? command with
      | none =>
          cases htolerant : h.faultTolerant with
          | true =>
              simp only [hhandler, htolerant, if_true]
              exact .skipped hfind hhandler htolerant
          | false =>
              simp only [hhandler, htolerant, Bool.false_eq_true, if_false]
              exact .unsupported hfind hhandler htolerant
      | some handler =>
          -- A plugin that is fault tolerant is asked even if it is not ready.
          simp only [hhandler]
          split
          · rename_i hclosed
            simp only [Bool.and_eq_true, Bool.not_eq_true'] at hclosed
            exact .notReady hfind hhandler hclosed.2 hclosed.1
          · rename_i hopen
            refine .found hfind hhandler ?_
            cases henabled : h.enabled with
            | true => exact .inl rfl
            | false => exact .inr (by simpa [henabled] using hopen)

variable (delay : Nat) (params : String)

/-- How a command ends that the script waits for. -/
inductive Dispatched : EStateM.Result ExecError (Machine ω) String → Prop where
  | refused {e : ExecError} {m' : Machine ω}
      (hresolved : Resolved handles line plugin command m (.error e m')) :
      Dispatched (.error e m')
  | skipped {h : Handle ω} (hfind : Registry.findIn handles plugin = some h)
      (hhandler : h.commands.handler? command = none) (htolerant : h.faultTolerant = true) :
      Dispatched (.ok "" (m.skipped line plugin command))
  | returned {h : Handle ω} {handler : Handler ω} {expanded result : String}
      (hresolved : Resolved handles line plugin command m (.ok (some (h, handler)) m))
      (hexpanded : expanded = m.program.macros.expand params)
      (hreply : m.reply handler expanded = .ok result) :
      Dispatched (.ok result ((m.called delay h handler command expanded).noted .info
        (plugin ++ "." ++ command ++ " " ++ expanded ++ " -> OK [" ++ result ++ "]")))
  | recovered {h : Handle ω} {handler : Handler ω} {expanded reason : String}
      (hresolved : Resolved handles line plugin command m (.ok (some (h, handler)) m))
      (hexpanded : expanded = m.program.macros.expand params)
      (hreply : m.reply handler expanded = .error reason) (htolerant : h.faultTolerant = true) :
      Dispatched (.ok "" (((m.called delay h handler command expanded).noted .warn
        (ScriptError.lineMark line ++ (plugin ++ "." ++ command ++ " " ++ expanded) ++
          " -> FAILED (" ++ reason ++ "), fault tolerant, continuing")).recovered))
  | failed {h : Handle ω} {handler : Handler ω} {expanded reason : String}
      (hresolved : Resolved handles line plugin command m (.ok (some (h, handler)) m))
      (hexpanded : expanded = m.program.macros.expand params)
      (hreply : m.reply handler expanded = .error reason) (hstrict : h.faultTolerant = false) :
      Dispatched (.error (.commandFailed line (commandText plugin command expanded) reason)
        (m.called delay h handler command expanded))

theorem dispatch_dispatched :
    Dispatched handles line plugin command m delay params
      (dispatch handles delay line plugin command params m) := by
  unfold dispatch
  have hresolved := resolve_resolved handles line plugin command m
  apply Action.bind_cases
  · intro found m' hresult
    rw [hresult] at hresolved
    cases hresolved with
    | skipped hfind hhandler htolerant => exact .skipped hfind hhandler htolerant
    | @found h handler hfind hhandler hready =>
        have hfound : Resolved handles line plugin command m (.ok (some (h, handler)) m) :=
          .found hfind hhandler hready
        have hpace : pace delay m = .ok () (m.paced delay) := rfl
        have hcall : ∀ params, call h handler command params (m.paced delay) =
            .ok (m.reply handler params) (m.called delay h handler command params) := fun _ => rfl
        -- Nothing before the reply can fail, and the reply decides on the rest.
        dsimp only
        rw [Action.get_bind, Action.bind_of_ok hpace, Action.bind_of_ok (hcall _)]
        cases hreply : m.reply handler (m.program.macros.expand params) with
        | ok text => exact .returned hfound rfl hreply
        | error reason =>
            cases htolerant : h.faultTolerant with
            | true =>
                simp only [if_true]
                exact .recovered hfound rfl hreply htolerant
            | false =>
                simp only [Bool.false_eq_true, if_false]
                exact .failed hfound rfl hreply htolerant
  · intro e m' hresult
    exact .refused (hresult ▸ hresolved)

/-- How a command ends that is left to the workers. -/
inductive HandedOver : EStateM.Result ExecError (Machine ω) Unit → Prop where
  | refused {e : ExecError} {m' : Machine ω}
      (hresolved : Resolved handles line plugin command m (.error e m')) :
      HandedOver (.error e m')
  | skipped {h : Handle ω} (hfind : Registry.findIn handles plugin = some h)
      (hhandler : h.commands.handler? command = none) (htolerant : h.faultTolerant = true) :
      HandedOver (.ok () (m.skipped line plugin command))
  | spawned {h : Handle ω} {handler : Handler ω}
      (hresolved : Resolved handles line plugin command m (.ok (some (h, handler)) m)) :
      HandedOver (.ok () (m.spawned delay line h handler plugin command
        (m.program.macros.expand params)))

theorem dispatchDetached_handedOver :
    HandedOver handles line plugin command m delay params
      (dispatchDetached handles delay line plugin command params m) := by
  unfold dispatchDetached
  have hresolved := resolve_resolved handles line plugin command m
  apply Action.bind_cases
  · intro found m' hresult
    rw [hresult] at hresolved
    cases hresolved with
    | skipped hfind hhandler htolerant => exact .skipped hfind hhandler htolerant
    | found hfind hhandler hready => exact .spawned (.found hfind hhandler hready)
  · intro e m' hresult
    exact .refused (hresult ▸ hresolved)

end Dispatch

/-! ### Jumps and steps -/

section Step

variable (handles : List (Handle ω)) (delay place : Nat) (s : Step) (m : Machine ω)

/-- How a jump ends. -/
inductive Jumped (line : Nat) (condition target : String) :
    EStateM.Result ExecError (Machine ω) Nat → Prop where
  | malformed {expanded : String} {cause : ConditionError}
      (hexpanded : expanded = m.program.macros.expand condition)
      (hvalue : Condition.evaluate expanded = .error cause) :
      Jumped line condition target (.error (.malformedCondition line expanded cause) m)
  | stayed (hvalue : Condition.evaluate (m.program.macros.expand condition) = .ok false) :
      Jumped line condition target (.ok (place + 1) m)
  | taken {expanded : String} {next : Nat}
      (hexpanded : expanded = m.program.macros.expand condition)
      (hvalue : Condition.evaluate expanded = .ok true)
      (hlabel : m.program.labelIndex? target = some next) :
      Jumped line condition target (.ok next (m.jumped line expanded target))
  | unknownLabel (hvalue : Condition.evaluate (m.program.macros.expand condition) = .ok true)
      (hlabel : m.program.labelIndex? target = none) :
      Jumped line condition target (.error (.unknownLabel line target) m)

theorem jump_jumped (line : Nat) (condition target : String) :
    Jumped place m line condition target (jump place line condition target m) := by
  unfold jump
  rw [Action.get_bind]
  cases hvalue : Condition.evaluate (m.program.macros.expand condition) with
  | error cause => exact .malformed rfl hvalue
  | ok holds =>
      cases holds with
      | false => exact .stayed hvalue
      | true =>
          cases hlabel : m.program.labelIndex? target with
          | none => exact .unknownLabel hvalue hlabel
          | some next => exact .taken rfl hvalue hlabel

/-- How a step ends. -/
inductive Stepped : EStateM.Result ExecError (Machine ω) Nat → Prop where
  | command {plugin command params result : String} {m' : Machine ω}
      (hentry : s.entry = .command plugin command params false)
      (hdispatch : Dispatched handles s.line plugin command m delay params (.ok result m')) :
      Stepped (.ok (place + 1) m')
  | commandFault {plugin command params : String} {e : ExecError} {m' : Machine ω}
      (hentry : s.entry = .command plugin command params false)
      (hdispatch : Dispatched handles s.line plugin command m delay params (.error e m')) :
      Stepped (.error e m')
  | detached {plugin command params : String} {m' : Machine ω}
      (hentry : s.entry = .command plugin command params true)
      (hdispatch : HandedOver handles s.line plugin command m delay params (.ok () m')) :
      Stepped (.ok (place + 1) m')
  | detachedFault {plugin command params : String} {e : ExecError} {m' : Machine ω}
      (hentry : s.entry = .command plugin command params true)
      (hdispatch : HandedOver handles s.line plugin command m delay params (.error e m')) :
      Stepped (.error e m')
  | assign {plugin command params name last result : String} {m' : Machine ω}
      (hentry : s.entry = .assign plugin command params name last)
      (hdispatch : Dispatched handles s.line plugin command m delay params (.ok result m')) :
      Stepped (.ok (place + 1)
        ((m'.noted .debug (ScriptError.lineMark s.line ++ "$" ++ name ++ " = [" ++ result ++
          "]")).assigned place name result))
  | assignFault {plugin command params name last : String} {e : ExecError} {m' : Machine ω}
      (hentry : s.entry = .assign plugin command params name last)
      (hdispatch : Dispatched handles s.line plugin command m delay params (.error e m')) :
      Stepped (.error e m')
  | jump {condition target : String} {result : EStateM.Result ExecError (Machine ω) Nat}
      (hentry : s.entry = .jump condition target)
      (hjump : Jumped place m s.line condition target result) : Stepped result
  | label {name : String} (hentry : s.entry = .label name) : Stepped (.ok (place + 1) m)

theorem step_stepped : Stepped handles delay place s m (step handles delay place s m) := by
  unfold step
  cases hentry : s.entry with
  | command plugin command params detached =>
      cases detached with
      | false =>
          have hdispatch := dispatch_dispatched handles s.line plugin command m delay params
          apply Action.bind_cases
          · intro result m' hresult
            exact .command hentry (hresult ▸ hdispatch)
          · intro e m' hresult
            exact .commandFault hentry (hresult ▸ hdispatch)
      | true =>
          have hdispatch := dispatchDetached_handedOver handles s.line plugin command m delay params
          apply Action.bind_cases
          · intro _ m' hresult
            exact .detached hentry (hresult ▸ hdispatch)
          · intro e m' hresult
            exact .detachedFault hentry (hresult ▸ hdispatch)
  | assign plugin command params name last =>
      have hdispatch := dispatch_dispatched handles s.line plugin command m delay params
      apply Action.bind_cases
      · intro result m' hresult
        exact .assign hentry (hresult ▸ hdispatch)
      · intro e m' hresult
        exact .assignFault hentry (hresult ▸ hdispatch)
  | jump condition target => exact .jump hentry (jump_jumped place m s.line condition target)
  | label name => exact .label hentry

end Step

/-! ### Runs -/

/-- What holds at the start and is kept up by every step, decides on the end of a run. -/
theorem runFrom_induction {handles : List (Handle ω)} {delay : Nat} {I : Nat → Machine ω → Prop}
    {Q : Ending → Machine ω → Prop}
    (hend : ∀ place m, I place m → m.program.steps[place]? = none →
      Q (.ok m.stats) (m.noted .info (finishedText m.stats)))
    (hstep : ∀ place m s next m', I place m → m.program.steps[place]? = some s →
      Stepped handles delay place s (m.withSession (·.tick)) (.ok next m') → I next m')
    (hfault : ∀ place m s e m', I place m → m.program.steps[place]? = some s →
      Stepped handles delay place s (m.withSession (·.tick)) (.error e m') →
      Q (.error e) (m'.noted .error e.message))
    {fuel place : Nat} {m m' : Machine ω} {ending : Ending} (hstart : I place m)
    (h : runFrom handles delay fuel place m = some (ending, m')) : Q ending m' := by
  induction fuel generalizing place m with
  | zero => cases h
  | succ fuel ih =>
      unfold runFrom at h
      have hstepped := fun s => step_stepped handles delay place s (m.withSession (·.tick))
      cases hs : m.program.steps[place]? with
      | none =>
          simp only [hs] at h
          cases h
          exact hend place m hstart hs
      | some s =>
          simp only [hs] at h
          specialize hstepped s
          cases hresult : step handles delay place s (m.withSession (·.tick)) with
          | ok next m₁ =>
              rw [hresult] at h hstepped
              exact ih (hstep place m s next m₁ hstart hs hstepped) h
          | error e m₁ =>
              rw [hresult] at h hstepped
              cases h
              exact hfault place m s e m₁ hstart hs hstepped

end RigScript.Machine
