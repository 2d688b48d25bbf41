import RigScript.Proofs.Execution.Forward
import RigScript.Proofs.Plugin.CrossCheck

/-! ## Plugins that are not ready

A plugin may be switched off, and then a command that addresses it stops the script before anything
is asked of the plugin. That is so unless the plugin is fault tolerant: such a plugin is asked all
the same, and whether it is switched off makes no difference at all. So commands are run by enabled
plugins only, in all executions, just if no plugin that is fault tolerant is switched off. -/

namespace RigScript

/-- The plugin as commands see it: one that is fault tolerant passes for enabled. -/
def Handle.indulged (h : Handle ω) : Handle ω :=
  { h with enabled := h.enabled || h.faultTolerant }

namespace Machine

variable {ω : Type} {handles : List (Handle ω)} {delay place : Nat} {start m : Machine ω} {s : Step}
  {visits : List (Visit ω)} {session : Session ω}

/-! ### Calls -/

/-- The call that a visit makes, be it waited for or left to the workers. -/
def Visit.call? (handles : List (Handle ω)) (v : Visit ω) : Option Call :=
  (v.called? handles).or (v.handedOver? handles)

theorem Visit.call?_eq (handles : List (Handle ω)) (v : Visit ω) :
    v.call? handles = v.step.entry.request?.bind fun (plugin, command, params) =>
      makes? handles v.machine plugin command params := by
  unfold Visit.call? called? handedOver?
  cases v.step.entry with
  | command plugin command params detached => cases detached <;> simp [Entry.request?]
  | _ => simp [Entry.request?]

/-- The plugin that the call is put to is found under its name, and it is like this. -/
def CallTo (handles : List (Handle ω)) (P : Handle ω → Prop) (call : Call) : Prop :=
  ∃ h, Registry.findIn handles call.plugin.name = some h ∧ h.identity = call.plugin ∧ P h

theorem callTo_iff {P : Handle ω → Prop} {plugin command params : String} {h : Handle ω}
    (hfind : Registry.findIn handles plugin = some h) :
    CallTo handles P ⟨h.identity, command, params⟩ ↔ P h := by
  have hname : Registry.findIn handles h.identity.name = some h := by
    rw [Handle.identity, Registry.name_of_findIn hfind]
    exact hfind
  unfold CallTo
  rw [hname]
  simp

section Command

variable {plugin command params : String} {h : Handle ω}

/-- A command that is offered is put to its plugin if that is enabled or fault tolerant. -/
theorem makes?_of_offered (hfind : Registry.findIn handles plugin = some h)
    (hoffers : h.commands.contains command = true) :
    makes? handles m plugin command params =
      if h.enabled = true ∨ h.faultTolerant = true then
        some ⟨h.identity, command, m.program.macros.expand params⟩
      else none := by
  rw [CommandTable.contains_eq_isSome] at hoffers
  obtain ⟨handler, hhandler⟩ := Option.isSome_iff_exists.1 hoffers
  unfold makes? addressee?
  rw [hfind, Option.bind_some, hhandler, Option.bind_some]
  by_cases hready : h.enabled = true ∨ h.faultTolerant = true <;> simp [hready]

/-- No other plugin is asked anything. -/
theorem ready_of_makes? {call : Call} (hcall : makes? handles m plugin command params = some call) :
    ∃ h, Registry.findIn handles plugin = some h ∧ h.commands.contains command = true ∧
      (h.enabled = true ∨ h.faultTolerant = true) ∧
      call = ⟨h.identity, command, m.program.macros.expand params⟩ := by
  unfold makes? addressee? at hcall
  obtain ⟨⟨g, handler⟩, haddressee, rfl⟩ := Option.map_eq_some_iff.1 hcall
  obtain ⟨h, hfind, hasked⟩ := Option.bind_eq_some_iff.1 haddressee
  obtain ⟨handler', hhandler, hready⟩ := Option.bind_eq_some_iff.1 hasked
  simp only [Option.ite_none_right_eq_some, Bool.or_eq_true, Option.some.injEq,
    Prod.mk.injEq] at hready
  obtain ⟨hready, rfl, rfl⟩ := hready
  refine ⟨h, hfind, ?_, hready, rfl⟩
  rw [CommandTable.contains_eq_isSome, hhandler]
  rfl

end Command

theorem Visit.callTo {v : Visit ω} {call : Call} (hcall : v.call? handles = some call) :
    CallTo handles (fun h => h.enabled = true ∨ h.faultTolerant = true) call := by
  rw [Visit.call?_eq] at hcall
  obtain ⟨⟨plugin, command, params⟩, -, hmakes⟩ := Option.bind_eq_some_iff.1 hcall
  obtain ⟨h, hfind, -, hready, rfl⟩ := ready_of_makes? hmakes
  exact (callTo_iff hfind).2 hready

/-! ### Refusal -/

/-- A plugin that is switched off and not fault tolerant refuses its command. -/
theorem step_of_notReady {plugin command params : String} {h : Handle ω}
    (hrequest : s.entry.request? = some (plugin, command, params))
    (hfind : Registry.findIn handles plugin = some h)
    (hoffers : h.commands.contains command = true) (hdisabled : h.enabled = false)
    (hstrict : h.faultTolerant = false) :
    step handles delay place s m = .error (.pluginNotReady s.line plugin) m := by
  rw [CommandTable.contains_eq_isSome] at hoffers
  obtain ⟨handler, hhandler⟩ := Option.isSome_iff_exists.1 hoffers
  have hresolve : resolve handles s.line plugin command m =
      .error (.pluginNotReady s.line plugin) m := by
    unfold resolve
    simp only [hfind, hhandler, hdisabled, hstrict]
    rfl
  have hdispatch : dispatch handles delay s.line plugin command params m =
      .error (.pluginNotReady s.line plugin) m := by
    unfold dispatch
    exact Action.bind_of_error hresolve
  have hdetached : dispatchDetached handles delay s.line plugin command params m =
      .error (.pluginNotReady s.line plugin) m := by
    unfold dispatchDetached
    exact Action.bind_of_error hresolve
  unfold step
  cases hentry : s.entry with
  | command _ _ _ detached =>
      rw [hentry] at hrequest
      cases hrequest
      cases detached with
      | false => exact Action.bind_of_error hdispatch
      | true => exact Action.bind_of_error hdetached
  | assign _ _ _ _ _ =>
      rw [hentry] at hrequest
      cases hrequest
      exact Action.bind_of_error hdispatch
  | jump _ _ =>
      rw [hentry] at hrequest
      cases hrequest
  | label _ =>
      rw [hentry] at hrequest
      cases hrequest

/-! ### Indulgence -/

theorem findIn_indulged (handles : List (Handle ω)) (plugin : String) :
    Registry.findIn (handles.map Handle.indulged) plugin =
      (Registry.findIn handles plugin).map Handle.indulged := by
  unfold Registry.findIn
  rw [List.find?_map]
  rfl

/-- A command is put to the same handler. -/
theorem resolve_indulged (handles : List (Handle ω)) (line : Nat) (plugin command : String) :
    resolve (handles.map Handle.indulged) line plugin command =
      (Option.map fun (h, handler) => (h.indulged, handler)) <$>
        resolve handles line plugin command := by
  unfold resolve
  rw [findIn_indulged]
  cases Registry.findIn handles plugin with
  | none => rfl
  | some h =>
      obtain ⟨name, plugin, version, commands, enabled, override, tolerant, origin⟩ := h
      dsimp only [Option.map_some, Handle.indulged]
      cases commands.handler? command with
      | none => cases tolerant <;> rfl
      | some handler => cases enabled <;> cases tolerant <;> rfl

theorem step_indulged (handles : List (Handle ω)) (delay place : Nat) (s : Step) :
    step (handles.map Handle.indulged) delay place s = step handles delay place s := by
  have hdispatch : ∀ plugin command params,
      dispatch (handles.map Handle.indulged) delay s.line plugin command params =
        dispatch handles delay s.line plugin command params := by
    intro plugin command params
    unfold dispatch
    rw [resolve_indulged, bind_map_left]
    refine congrArg _ (funext fun found => ?_)
    cases found <;> rfl
  have hdetached : ∀ plugin command params,
      dispatchDetached (handles.map Handle.indulged) delay s.line plugin command params =
        dispatchDetached handles delay s.line plugin command params := by
    intro plugin command params
    unfold dispatchDetached
    rw [resolve_indulged, bind_map_left]
    refine congrArg _ (funext fun found => ?_)
    cases found <;> rfl
  unfold step
  simp only [hdispatch, hdetached]

theorem runFrom_indulged (handles : List (Handle ω)) (delay fuel place : Nat) (m : Machine ω) :
    runFrom (handles.map Handle.indulged) delay fuel place m =
      runFrom handles delay fuel place m := by
  induction fuel generalizing place m with
  | zero => rfl
  | succ fuel ih =>
      unfold runFrom
      simp only [step_indulged, ih]

/-! ### Executions -/

/-- An execution that has arrived at a command of a plugin that is switched off ends there without
a call if the plugin is not fault tolerant; otherwise the call is made. -/
theorem Path.disabled_cases (hpath : Path handles delay start visits place m)
    (hs : m.program.steps[place]? = some s) {plugin command params : String} {h : Handle ω}
    (hrequest : s.entry.request? = some (plugin, command, params))
    (hfind : Registry.findIn handles plugin = some h)
    (hoffers : h.commands.contains command = true) (hdisabled : h.enabled = false) :
    let v : Visit ω := ⟨place, s, m.withSession (·.tick)⟩
    (h.faultTolerant = false → v.call? handles = none ∧
      ∃ m', Ends handles delay start (visits ++ [v]) (.error (.pluginNotReady s.line plugin)) m') ∧
    (h.faultTolerant = true →
      v.call? handles = some ⟨h.identity, command, m.program.macros.expand params⟩) := by
  intro v
  have hcall : v.call? handles = makes? handles v.machine plugin command params := by
    rw [Visit.call?_eq, hrequest]
    rfl
  rw [hcall, makes?_of_offered hfind hoffers, hdisabled]
  refine ⟨fun hstrict => ⟨?_, ?_⟩, fun htolerant => ?_⟩
  · simp [hstrict]
  · exact ⟨_, .failed hpath hs (step_of_notReady hrequest hfind hoffers hdisabled hstrict)⟩
  · rw [htolerant]
    rfl

/-- A script of one command. -/
def single (plugin command : String) : Program where
  steps := [⟨1, plugin ++ "." ++ command, .command plugin command "" false⟩]

/-- Only enabled plugins are called if, and only if, no plugin that is fault tolerant and offers a
command is switched off. -/
theorem enabled_iff (handles : List (Handle ω)) (session : Session ω) :
    (∀ delay start visits session', Visited handles delay start visits session' →
      ∀ v ∈ visits, ∀ call, v.call? handles = some call →
        CallTo handles (fun h => h.enabled = true) call) ↔
    ∀ plugin command h, Registry.findIn handles plugin = some h →
      h.commands.contains command = true → h.faultTolerant = true → h.enabled = true := by
  constructor
  · intro hcalls plugin command h hfind hoffers htolerant
    by_contra hdisabled
    -- One command that is put to the plugin is enough.
    have hstart : Path handles 0 ⟨single plugin command, {}, session⟩ [] 0 _ := .start
    obtain ⟨session', hvisited⟩ := hstart.visited_next rfl
    have hcall := (hstart.disabled_cases rfl rfl hfind hoffers (by simpa using hdisabled)).2
      htolerant
    have hto := hcalls _ _ _ _ hvisited _ List.mem_cons_self _ hcall
    exact hdisabled ((callTo_iff hfind).1 hto)
  · intro hready delay start visits session' _ v _ call hcall
    rw [Visit.call?_eq] at hcall
    obtain ⟨⟨plugin, command, params⟩, -, hmakes⟩ := Option.bind_eq_some_iff.1 hcall
    obtain ⟨h, hfind, hoffers, henabled, rfl⟩ := ready_of_makes? hmakes
    exact (callTo_iff hfind).2 (henabled.elim id (hready plugin command h hfind hoffers))

/-- Which plugins commands are put to. Whatever the program and the handlers do, a call goes to a
plugin that is enabled or fault tolerant, and the calls of a session are the calls of its visits. A
plugin that is switched off and not fault tolerant ends the execution with its first command,
without a call; one that is fault tolerant is called, and an execution does not even depend on
whether it is switched off. So all calls go to enabled plugins just if no plugin that is fault
tolerant and offers a command is switched off. -/
theorem readiness_of_calls (handles : List (Handle ω)) (session : Session ω) :
    (∀ delay start visits session', Visited handles delay start visits session' →
      CallsOf handles start visits session' ∧
      ∀ v ∈ visits, ∀ call, v.call? handles = some call →
        CallTo handles (fun h => h.enabled = true ∨ h.faultTolerant = true) call) ∧
    (∀ delay start visits place m s plugin command params h,
      Path handles delay start visits place m → m.program.steps[place]? = some s →
      s.entry.request? = some (plugin, command, params) →
      Registry.findIn handles plugin = some h → h.commands.contains command = true →
      h.enabled = false →
        let v : Visit ω := ⟨place, s, m.withSession (·.tick)⟩
        (h.faultTolerant = false → v.call? handles = none ∧ ∃ m',
          Ends handles delay start (visits ++ [v]) (.error (.pluginNotReady s.line plugin)) m') ∧
        (h.faultTolerant = true →
          v.call? handles = some ⟨h.identity, command, m.program.macros.expand params⟩)) ∧
    (∀ (m : Machine ω) delay fuel,
      m.run (handles.map Handle.indulged) delay fuel = m.run handles delay fuel) ∧
    ((∀ delay start visits session', Visited handles delay start visits session' →
      ∀ v ∈ visits, ∀ call, v.call? handles = some call →
        CallTo handles (fun h => h.enabled = true) call) ↔
    ∀ plugin command h, Registry.findIn handles plugin = some h →
      h.commands.contains command = true → h.faultTolerant = true → h.enabled = true) := by
  refine ⟨?_, ?_, ?_, enabled_iff handles session⟩
  · intro delay start visits session' hvisited
    exact ⟨hvisited.callsOf, fun v _ call hcall => v.callTo hcall⟩
  · intro delay start visits place m s plugin command params h hpath hs hrequest hfind hoffers
      hdisabled
    exact hpath.disabled_cases hs hrequest hfind hoffers hdisabled
  · intro m delay fuel
    exact runFrom_indulged handles delay fuel 0 m

/-- The finder, switched off. -/
def dormantFinder (tolerant : Bool) : Handle Bool :=
  { finder with enabled := false, faultTolerant := tolerant }

def findStep : Step := ⟨1, "RIG.FIND", .command "RIG" "FIND" "" false⟩

/-- The finder is asked for a device though it is switched off; it is not if it is not fault
tolerant. -/
theorem readiness_of_calls_dormant :
    let start : Machine Bool := ⟨{ steps := [findStep] }, {}, { world := false }⟩
    let v : Visit Bool := ⟨0, findStep, start.withSession (·.tick)⟩
    let call : Call := ⟨⟨"RIG", "Finder"⟩, "FIND", ""⟩
    (v.call? [dormantFinder true] = some call ∧
      ¬ CallTo [dormantFinder true] (fun h => h.enabled = true) call) ∧
    v.call? [dormantFinder false] = none ∧
    ∃ m', Ends [dormantFinder false] 0 start [v] (.error (.pluginNotReady 1 "RIG")) m' := by
  intro start v call
  have hasked := ((readiness_of_calls [dormantFinder true] { world := false }).2.1 0 start [] 0
    start findStep "RIG" "FIND" "" _ .start rfl rfl rfl rfl rfl).2 rfl
  have hsilent := ((readiness_of_calls [dormantFinder false] { world := false }).2.1 0 start [] 0
    start findStep "RIG" "FIND" "" _ .start rfl rfl rfl rfl rfl).1 rfl
  have hexpand : start.program.macros.expand "" = "" := by decide
  rw [hexpand] at hasked
  have hdisabled : ¬ CallTo [dormantFinder true] (fun h => h.enabled = true) call := by
    intro hto
    have hfind : Registry.findIn [dormantFinder true] "RIG" = some (dormantFinder true) := rfl
    cases (callTo_iff hfind).1 hto
  exact ⟨⟨hasked, hdisabled⟩, hsilent⟩

end Machine

end RigScript
