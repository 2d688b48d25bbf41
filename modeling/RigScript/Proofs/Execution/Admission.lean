import RigScript.Proofs.Execution.Checked
import RigScript.Proofs.Execution.Readiness
import RigScript.Proofs.Macro.Pass

/-! ## What a dry run decides

A dry run goes through the entries of a program in their order, wherever the jumps lead. It succeeds
just if it admits every entry, and if not it tells of the first one that it refuses. The checks are
the only thing that it asks plugins for. Once a program has passed, a command that is written
without macros reaches a plugin that is not fault tolerant only with parameters that its check
accepts. -/

namespace RigScript

theorem Step.request?_of_code {s s' : Step} (h : s'.code = s.code) :
    s'.entry.request? = s.entry.request? := by
  have hrequest : ∀ e : Entry, e.code.request? = e.request? := by
    intro e
    cases e <;> rfl
  rw [← hrequest, Step.entry_of_code h, hrequest]

namespace Execution

variable {ω : Type} (handles : List (Handle ω)) (macros : MacroTable)

/-! ### Admission -/

/-- The plugin is in use. Unless it is fault tolerant it offers the command, and if the command has
a check this accepts the parameters. -/
def Admits (plugin command params : String) : Prop :=
  ∃ h, Registry.findIn handles plugin = some h ∧ (h.faultTolerant = false →
    h.commands.contains command = true ∧
      ∀ check, h.commands.check? command = some check → check params = .ok ())

/-- What the entry asks for, with its macros expanded, is admitted. -/
def Admitted (s : Step) : Prop :=
  ∀ plugin command params, s.entry.request? = some (plugin, command, params) →
    Admits handles plugin command (macros.expand params)

/-- Why an entry is not admitted. -/
inductive Refused (s : Step) : ExecError → Prop where
  | unknown {plugin command params : String}
      (hrequest : s.entry.request? = some (plugin, command, params))
      (hfind : Registry.findIn handles plugin = none) : Refused s (.unknownPlugin s.line plugin)
  | unsupported {plugin command params : String} {h : Handle ω}
      (hrequest : s.entry.request? = some (plugin, command, params))
      (hfind : Registry.findIn handles plugin = some h) (hstrict : h.faultTolerant = false)
      (hmissing : h.commands.contains command = false) :
      Refused s (.unsupportedCommand s.line plugin command)
  | rejected {plugin command params reason : String} {h : Handle ω} {check : ArgumentCheck}
      (hrequest : s.entry.request? = some (plugin, command, params))
      (hfind : Registry.findIn handles plugin = some h) (hstrict : h.faultTolerant = false)
      (hcontains : h.commands.contains command = true)
      (hcheck : h.commands.check? command = some check)
      (hreject : check (macros.expand params) = .error reason) :
      Refused s
        (.invalidArguments s.line (commandText plugin command (macros.expand params)) reason)

/-- The command of the entry is in the table of its plugin. -/
def offers (s : Step) : Bool :=
  s.entry.target?.any fun (plugin, command) =>
    (Registry.findIn handles plugin).any (·.commands.contains command)

/-- What the entry puts to a check, if its command is there and has one. -/
def question? (s : Step) : Option Call :=
  s.entry.request?.bind fun (plugin, command, params) =>
    (Registry.findIn handles plugin).bind fun h =>
      if h.commands.contains command && (h.commands.check? command).isSome then
        some ⟨h.identity, command, macros.expand params⟩
      else none

variable {handles macros}

theorem Refused.not_admitted {s : Step} {e : ExecError} (h : Refused handles macros s e) :
    ¬ Admitted handles macros s := by
  intro hadmitted
  cases h with
  | unknown hrequest hfind =>
      obtain ⟨g, hfind', -⟩ := hadmitted _ _ _ hrequest
      rw [hfind] at hfind'
      cases hfind'
  | unsupported hrequest hfind hstrict hmissing =>
      obtain ⟨g, hfind', hadmits⟩ := hadmitted _ _ _ hrequest
      obtain rfl := Option.some.inj (hfind.symm.trans hfind')
      have hcontains := (hadmits hstrict).1
      rw [hmissing] at hcontains
      cases hcontains
  | rejected hrequest hfind hstrict _ hcheck hreject =>
      obtain ⟨g, hfind', hadmits⟩ := hadmitted _ _ _ hrequest
      obtain rfl := Option.some.inj (hfind.symm.trans hfind')
      have haccept := (hadmits hstrict).2 _ hcheck
      rw [hreject] at haccept
      cases haccept

/-- An entry is refused for one reason. -/
theorem Refused.unique {s : Step} {e e' : ExecError} (h : Refused handles macros s e)
    (h' : Refused handles macros s e') : e = e' := by
  cases h <;> cases h' <;> simp_all

/-! ### One entry -/

/-- From one session to another these calls were put to their checks, and nothing else was done. -/
structure Asked (s : Session ω) (calls : List Call) (s₁ : Session ω) : Prop where
  adds : Session.Adds s (calls.map .checked) s₁
  world : s₁.world = s.world

theorem Asked.refl (s : Session ω) : Asked s [] s := ⟨.refl s, rfl⟩

theorem Asked.trans {s s₁ s₂ : Session ω} {calls calls₁ : List Call} (h : Asked s calls s₁)
    (h₁ : Asked s₁ calls₁ s₂) : Asked s (calls ++ calls₁) s₂ where
  adds := by
    rw [List.map_append]
    exact h.adds.trans h₁.adds
  world := h₁.world.trans h.world

variable (handles macros) in
/-- How the dry run of an entry ends. -/
inductive Judged (s : Step) (session : Session ω) :
    EStateM.Result ExecError (Session ω) Nat → Prop where
  | admitted {n : Nat} {session' : Session ω} (hadmitted : Admitted handles macros s)
      (hn : n = if offers handles s then 1 else 0)
      (hasked : Asked session (question? handles macros s).toList session') :
      Judged s session (.ok n session')
  | refused {e : ExecError} {session' : Session ω} (hrefused : Refused handles macros s e)
      (hasked : Asked session (question? handles macros s).toList session') :
      Judged s session (.error e session')

section Command

variable {s : Step} {plugin command params : String} {h : Handle ω} {session : Session ω}
  (hrequest : s.entry.request? = some (plugin, command, params))
include hrequest

theorem admitted_iff :
    Admitted handles macros s ↔ Admits handles plugin command (macros.expand params) := by
  constructor
  · exact fun hadmitted => hadmitted _ _ _ hrequest
  · intro hadmits _ _ _ hrequest'
    obtain ⟨rfl, rfl, rfl⟩ : plugin = _ ∧ command = _ ∧ params = _ := by
      simpa [hrequest] using hrequest'
    exact hadmits

theorem offers_eq (hfind : Registry.findIn handles plugin = some h) :
    offers handles s = h.commands.contains command := by
  simp [offers, Entry.target?_eq_map_request?, hrequest, hfind]

theorem question?_of_check {check : ArgumentCheck}
    (hfind : Registry.findIn handles plugin = some h)
    (hcontains : h.commands.contains command = true)
    (hcheck : h.commands.check? command = some check) :
    question? handles macros s = some ⟨h.identity, command, macros.expand params⟩ := by
  simp [question?, hrequest, hfind, hcontains, hcheck]

theorem asked_checked {check : ArgumentCheck} (hfind : Registry.findIn handles plugin = some h)
    (hcontains : h.commands.contains command = true)
    (hcheck : h.commands.check? command = some check) (severity : Severity) (text : String) :
    Asked session (question? handles macros s).toList
      ((checkedSession h command (macros.expand params) session).note severity text) := by
  rw [question?_of_check hrequest hfind hcontains hcheck]
  exact ⟨((Session.Adds.refl session).record _).note _ _, rfl⟩

/-- Nothing is asked where no check is found. -/
theorem question?_eq_none (hnone : ∀ g, Registry.findIn handles plugin = some g →
    g.commands.contains command = true → g.commands.check? command = none) :
    question? handles macros s = none := by
  rw [question?, hrequest, Option.bind_some, Option.bind_eq_none_iff]
  intro g hg
  cases hcontains : g.commands.contains command with
  | false => simp
  | true => simp [hnone g hg hcontains]

theorem DryChecked.judged {result : EStateM.Result ExecError (Session ω) Nat}
    (hchecked : DryChecked handles macros s.line plugin command params session result) :
    Judged handles macros s session result := by
  have hidle : question? handles macros s = none →
      Asked session (question? handles macros s).toList session := by
    intro hnone
    rw [hnone]
    exact .refl session
  cases hchecked with
  | unknown hfind =>
      exact .refused (.unknown hrequest hfind)
        (hidle (question?_eq_none hrequest (by simp [hfind])))
  | ignored hfind hmissing htolerant =>
      refine .admitted ((admitted_iff hrequest).2 ⟨_, hfind, ?_⟩) ?_ (hidle ?_)
      · simp [htolerant]
      · simp [offers_eq hrequest hfind, hmissing]
      · exact question?_eq_none hrequest (by simp [hfind, hmissing])
  | unsupported hfind hmissing hstrict =>
      refine .refused (.unsupported hrequest hfind hstrict hmissing) (hidle ?_)
      exact question?_eq_none hrequest (by simp [hfind, hmissing])
  | unchecked hfind hcontains hcheck =>
      refine .admitted ((admitted_iff hrequest).2 ⟨_, hfind, fun _ => ⟨hcontains, ?_⟩⟩) ?_
        (hidle ?_)
      · simp [hcheck]
      · simp [offers_eq hrequest hfind, hcontains]
      · exact question?_eq_none hrequest (by simp [hfind, hcheck])
  | accepted hfind hcontains hcheck hexpanded haccept =>
      subst hexpanded
      refine .admitted ((admitted_iff hrequest).2 ⟨_, hfind, fun _ => ⟨hcontains, ?_⟩⟩) ?_
        (asked_checked hrequest hfind hcontains hcheck _ _)
      · simp [hcheck, haccept]
      · simp [offers_eq hrequest hfind, hcontains]
  | tolerated hfind hcontains hcheck hexpanded _ htolerant =>
      subst hexpanded
      refine .admitted ((admitted_iff hrequest).2 ⟨_, hfind, ?_⟩) ?_
        (asked_checked hrequest hfind hcontains hcheck _ _)
      · simp [htolerant]
      · simp [offers_eq hrequest hfind, hcontains]
  | rejected hfind hcontains hcheck hexpanded hreject hstrict he =>
      subst hexpanded he
      have hrefused := Refused.rejected hrequest hfind hstrict hcontains hcheck hreject
      rw [← Registry.name_of_findIn hfind] at hrefused
      exact .refused hrefused (asked_checked hrequest hfind hcontains hcheck _ _)

end Command

theorem dryStep_judged (handles : List (Handle ω)) (macros : MacroTable) (s : Step)
    (session : Session ω) :
    Judged handles macros s session (dryStep handles macros s session) := by
  rw [dryStep_eq]
  cases hrequest : s.entry.request? with
  | some request =>
      obtain ⟨plugin, command, params⟩ := request
      exact (dryCommand_dryChecked handles macros s.line plugin command params session).judged
        hrequest
  | none =>
      have hadmitted : Admitted handles macros s := by simp [Admitted, hrequest]
      refine .admitted hadmitted ?_ ?_
      · simp [offers, Entry.target?_eq_map_request?, hrequest]
      · simpa [question?, hrequest] using Asked.refl session

/-! ### All entries -/

theorem Asked.cons {s : Step} {steps : List Step} {session session₁ session₂ : Session ω}
    (h : Asked session (question? handles macros s).toList session₁)
    (h₁ : Asked session₁ (steps.filterMap (question? handles macros)) session₂) :
    Asked session ((s :: steps).filterMap (question? handles macros)) session₂ := by
  have hall := h.trans h₁
  rw [List.filterMap_cons]
  cases hquestion : question? handles macros s <;> simpa [hquestion] using hall

variable (handles macros) in
/-- How the dry run of a row of entries ends: all are admitted, or one is refused and those before
it are admitted. -/
inductive Verdict (steps : List Step) (session : Session ω) :
    EStateM.Result ExecError (Session ω) Nat → Prop where
  | passed {n : Nat} {session' : Session ω} (hadmitted : ∀ s ∈ steps, Admitted handles macros s)
      (hn : n = steps.countP (offers handles))
      (hasked : Asked session (steps.filterMap (question? handles macros)) session') :
      Verdict steps session (.ok n session')
  | failed {before after : List Step} {s : Step} {e : ExecError} {session' : Session ω}
      (hsteps : steps = before ++ s :: after) (hbefore : ∀ s' ∈ before, Admitted handles macros s')
      (hrefused : Refused handles macros s e)
      (hasked : Asked session ((before ++ [s]).filterMap (question? handles macros)) session') :
      Verdict steps session (.error e session')

theorem dryEach_verdict (steps : List Step) (session : Session ω) :
    Verdict handles macros steps session (dryEach handles macros steps session) := by
  induction steps generalizing session with
  | nil => exact .passed (by simp) rfl (.refl session)
  | cons s steps ih =>
      have hjudged := dryStep_judged handles macros s session
      rw [dryEach]
      cases hstep : dryStep handles macros s session with
      | error e session₁ =>
          rw [hstep] at hjudged
          rw [Action.bind_of_error hstep]
          cases hjudged with
          | refused hrefused hasked =>
              have hfirst : Asked session ([s].filterMap (question? handles macros)) session₁ :=
                hasked.cons (.refl session₁)
              exact .failed (List.nil_append _).symm (by simp) hrefused hfirst
      | ok n session₁ =>
          rw [hstep] at hjudged
          rw [Action.bind_of_ok hstep]
          cases hjudged with
          | admitted hadmitted hn hasked =>
              have hrest := ih session₁
              cases heach : dryEach handles macros steps session₁ with
              | error e session₂ =>
                  rw [heach] at hrest
                  rw [Action.bind_of_error heach]
                  cases hrest with
                  | failed hsteps hbefore hrefused hasked₁ =>
                      exact .failed (congrArg (s :: ·) hsteps)
                        (List.forall_mem_cons.2 ⟨hadmitted, hbefore⟩) hrefused (hasked.cons hasked₁)
              | ok k session₂ =>
                  rw [heach] at hrest
                  rw [Action.bind_of_ok heach]
                  cases hrest with
                  | passed hall hk hasked₁ =>
                      refine .passed (List.forall_mem_cons.2 ⟨hadmitted, hall⟩) ?_
                        (hasked.cons hasked₁)
                      rw [List.countP_cons, ← hk, ← hn, Nat.add_comm]

/-- The first entry that is refused decides, whatever stands behind it. -/
theorem dryEach_of_refused {before after : List Step} {s : Step} {e : ExecError}
    (hbefore : ∀ s' ∈ before, Admitted handles macros s') (hrefused : Refused handles macros s e)
    (session : Session ω) :
    ∃ session', dryEach handles macros (before ++ s :: after) session = .error e session' := by
  induction before generalizing session with
  | nil =>
      have hjudged := dryStep_judged handles macros s session
      rw [List.nil_append, dryEach]
      cases hstep : dryStep handles macros s session <;> rw [hstep] at hjudged
      case ok =>
        cases hjudged with
        | admitted hadmitted _ _ => exact absurd hadmitted hrefused.not_admitted
      case error e' session₁ =>
        cases hjudged with
        | refused hrefused' _ =>
            rw [Action.bind_of_error hstep, hrefused'.unique hrefused]
            exact ⟨_, rfl⟩
  | cons s₀ before ih =>
      have hjudged := dryStep_judged handles macros s₀ session
      obtain ⟨hfirst, hbefore⟩ := List.forall_mem_cons.1 hbefore
      rw [List.cons_append, dryEach]
      cases hstep : dryStep handles macros s₀ session <;> rw [hstep] at hjudged
      case error =>
        cases hjudged with
        | refused hrefused' _ => exact absurd hfirst hrefused'.not_admitted
      case ok n session₁ =>
        obtain ⟨session₂, hrest⟩ := ih hbefore session₁
        rw [Action.bind_of_ok hstep, Action.bind_of_error hrest]
        exact ⟨_, rfl⟩

/-! ### A whole program -/

variable {p : Program} {session : Session ω}

theorem dryRun_verdict (handles : List (Handle ω)) (p : Program) (session : Session ω) :
    Verdict handles p.macros p.steps session (dryRun handles p session) := by
  have hverdict : Verdict handles p.macros p.steps session _ := dryEach_verdict p.steps session
  unfold dryRun
  cases heach : dryEach handles p.macros p.steps session with
  | error e session₁ =>
      rw [heach] at hverdict
      rw [Action.bind_of_error heach]
      exact hverdict
  | ok n session₁ =>
      rw [heach] at hverdict
      rw [Action.bind_of_ok heach]
      cases hverdict with
      | passed hadmitted hn hasked =>
          exact .passed hadmitted hn ⟨hasked.adds.note _ _, hasked.world⟩

theorem dryRun_eq_error_iff {e : ExecError} :
    (∃ session', dryRun handles p session = .error e session') ↔
      ∃ before s after, p.steps = before ++ s :: after ∧
        (∀ s' ∈ before, Admitted handles p.macros s') ∧ Refused handles p.macros s e := by
  constructor
  · rintro ⟨session', hdry⟩
    have hverdict := dryRun_verdict handles p session
    rw [hdry] at hverdict
    cases hverdict with
    | failed hsteps hbefore hrefused _ => exact ⟨_, _, _, hsteps, hbefore, hrefused⟩
  · rintro ⟨before, s, after, hsteps, hbefore, hrefused⟩
    obtain ⟨session', heach⟩ : ∃ session', dryEach handles p.macros (before ++ s :: after) session =
        .error e session' := dryEach_of_refused hbefore hrefused session
    rw [← hsteps] at heach
    exact ⟨session', Action.bind_of_error heach⟩

theorem dryRun_eq_ok_iff {n : Nat} :
    (∃ session', dryRun handles p session = .ok n session') ↔
      (∀ s ∈ p.steps, Admitted handles p.macros s) ∧ n = p.steps.countP (offers handles) := by
  have hverdict := dryRun_verdict handles p session
  cases hdry : dryRun handles p session with
  | ok k session₁ =>
      rw [hdry] at hverdict
      cases hverdict with
      | passed hadmitted hk _ =>
          constructor
          · rintro ⟨_, hn⟩
            cases hn
            exact ⟨hadmitted, hk⟩
          · rintro ⟨-, rfl⟩
            exact ⟨session₁, by rw [hk]⟩
  | error e session₁ =>
      rw [hdry] at hverdict
      cases hverdict with
      | failed hsteps _ hrefused _ =>
          refine iff_of_false (by simp) fun ⟨hadmitted, _⟩ => ?_
          exact hrefused.not_admitted (hadmitted _ (by simp [hsteps]))

/-- A dry run puts to the checks what its entries ask for, as far as it gets. -/
theorem exists_asked_of_dryRun (handles : List (Handle ω)) (p : Program) (session : Session ω) :
    ∃ asked, asked <+: p.steps ∧
      Asked session (asked.filterMap (question? handles p.macros))
        (Action.state (dryRun handles p session)) ∧
      ((∃ n session', dryRun handles p session = .ok n session') → asked = p.steps) := by
  have hverdict := dryRun_verdict handles p session
  cases hdry : dryRun handles p session with
  | ok n session₁ =>
      rw [hdry] at hverdict
      cases hverdict with
      | passed _ _ hasked => exact ⟨p.steps, List.prefix_refl _, hasked, fun _ => rfl⟩
  | error e session₁ =>
      rw [hdry] at hverdict
      cases hverdict with
      | @failed before after s _ _ hsteps _ _ hasked =>
          refine ⟨before ++ [s], ⟨after, ?_⟩, hasked, by simp⟩
          rw [hsteps, List.append_assoc, List.singleton_append]

/-! ### From the dry run to the execution -/

/-- A call with parameters that hold no macro is one that the dry run has admitted. -/
theorem accepted_of_call {handles' : List (Handle ω)} {s : Step} {v : Machine.Visit ω}
    {plugin command params : String} {call : Call} (hadmitted : Admitted handles macros s)
    (hreadied : Registry.Readied handles handles') (hcode : s.code = v.step.code)
    (hrequest : v.step.entry.request? = some (plugin, command, params))
    (hplain : '$' ∉ params.toList) (hcall : v.call? handles' = some call) :
    ∃ h, Registry.findIn handles' plugin = some h ∧ call = ⟨h.identity, command, params⟩ ∧
      (h.faultTolerant = false →
        ∀ check, h.commands.check? command = some check → check params = .ok ()) := by
  obtain ⟨g, hfind, hadmits⟩ :=
    hadmitted plugin command params ((Step.request?_of_code hcode).trans hrequest)
  obtain ⟨h, hfind', hsame⟩ := hreadied.findIn hfind
  rw [Machine.Visit.call?_eq, hrequest, Option.bind_some] at hcall
  obtain ⟨h', hfound, -, -, rfl⟩ := Machine.ready_of_makes? hcall
  obtain rfl := Option.some.inj (hfind'.symm.trans hfound)
  -- Neither the texts of before the execution nor those of now have a part in the parameters.
  rw [MacroTable.expand_of_dollar_not_mem _ hplain] at hadmits ⊢
  refine ⟨h, hfind', rfl, ?_⟩
  rw [hsame]
  exact fun hstrict => (hadmits hstrict).2

end Execution

namespace Machine

variable {ω : Type} {handles : List (Handle ω)} {delay : Nat} {start : Machine ω} {p : Program}
  {visits : List (Visit ω)} {session : Session ω}

/-- What is visited are entries of the program. -/
theorem Visited.exists_step (hvisited : Visited handles delay start visits session)
    (hcode : start.program.code = p.code) {v : Visit ω} (hv : v ∈ visits) :
    ∃ s ∈ p.steps, s.code = v.step.code := by
  have hentry : p.steps[v.place]?.map Step.code = some v.step.code := by
    rcases hvisited with ⟨place, m, hpath, -⟩ | ⟨ending, m, hends, -⟩
    · exact hpath.entries hcode v hv
    · exact hends.entries hcode v hv
  obtain ⟨s, hs, hsame⟩ := Option.map_eq_some_iff.1 hentry
  exact ⟨s, List.mem_of_getElem? hs, hsame⟩

end Machine

namespace Execution

variable {ω : Type}

/-- What the dry run decides, and what it is good for. It succeeds just if every entry is admitted,
and then counts the commands that are in the tables of their plugins; otherwise it fails over the
first entry that is refused. It puts parameters to checks, entry by entry, and does nothing else.
After it has succeeded the plugins may be enabled and the program executed, also again and again: an
entry without macros in its parameters calls its handler with just these, and unless the plugin is
fault tolerant with such as its check accepts. -/
theorem dryRun_decides (handles : List (Handle ω)) (p : Program) (session : Session ω) :
    (∀ n, (∃ session', dryRun handles p session = .ok n session') ↔
      (∀ s ∈ p.steps, Admitted handles p.macros s) ∧ n = p.steps.countP (offers handles)) ∧
    (∀ e, (∃ session', dryRun handles p session = .error e session') ↔
      ∃ before s after, p.steps = before ++ s :: after ∧
        (∀ s' ∈ before, Admitted handles p.macros s') ∧ Refused handles p.macros s e) ∧
    (∃ asked, asked <+: p.steps ∧
      Asked session (asked.filterMap (question? handles p.macros))
        (Action.state (dryRun handles p session)) ∧
      ((∃ n session', dryRun handles p session = .ok n session') → asked = p.steps)) ∧
    ∀ n session', dryRun handles p session = .ok n session' →
      ∀ handles', Registry.Readied handles handles' →
      ∀ delay (start : Machine ω), start.program.code = p.code →
      ∀ visits session₁, Machine.Visited handles' delay start visits session₁ →
        Machine.CallsOf handles' start visits session₁ ∧
        ∀ v ∈ visits, ∀ plugin command params call,
          v.step.entry.request? = some (plugin, command, params) → '$' ∉ params.toList →
          v.call? handles' = some call →
          ∃ h, Registry.findIn handles' plugin = some h ∧ call = ⟨h.identity, command, params⟩ ∧
            (h.faultTolerant = false →
              ∀ check, h.commands.check? command = some check → check params = .ok ()) := by
  refine ⟨fun _ => dryRun_eq_ok_iff, fun _ => dryRun_eq_error_iff,
    exists_asked_of_dryRun handles p session, ?_⟩
  intro n session' hdry handles' hreadied delay start hcode visits session₁ hvisited
  refine ⟨hvisited.callsOf, fun v hv plugin command params call hrequest hplain hcall => ?_⟩
  obtain ⟨hadmitted, -⟩ := dryRun_eq_ok_iff.1 ⟨session', hdry⟩
  obtain ⟨s, hs, hsame⟩ := hvisited.exists_step hcode hv
  exact accepted_of_call (hadmitted s hs) hreadied hsame hrequest hplain hcall

/-- A plugin whose only command takes one parameter only. -/
def dial : Handle Unit where
  name := "RIG"
  plugin := { model := "Dial", version := fun _ => "1.0.0.0", commands := fun _ => {} }
  commands := (CommandTable.register {} "TURN" { call := fun _ => pure (.ok "") }).registerCheck
    "TURN" fun params => if params = "5" then .ok () else .error "out of range"

/-- The dial is turned once, and a second time where no jump leads. -/
def dialProgram (params : String) : Program where
  steps := [⟨1, "RIG.TURN 5", .command "RIG" "TURN" "5" false⟩,
    ⟨2, "GOTO END", .jump "TRUE" "END"⟩,
    ⟨3, "RIG.TURN " ++ params, .command "RIG" "TURN" params false⟩,
    ⟨4, "LABEL END", .label "END"⟩]

/-- An entry that is never executed stops the script all the same, and what is executed has been
admitted. -/
theorem dryRun_decides_dial :
    (∃ session', dryRun [dial] (dialProgram "9") { world := () } =
      .error (.invalidArguments 3 "RIG.TURN 9" "out of range") session') ∧
    (∃ session', dryRun [dial] (dialProgram "5") { world := () } = .ok 2 session') ∧
    ∃ visits session₁, Machine.Visited [{ dial with enabled := true }] 0
        { program := dialProgram "5", session := { world := () } } visits session₁ ∧
      ∃ v ∈ visits,
        v.call? [{ dial with enabled := true }] = some ⟨⟨"RIG", "Dial"⟩, "TURN", "5"⟩ ∧
        ∀ check, dial.commands.check? "TURN" = some check → check "5" = .ok () := by
  have hfind : Registry.findIn [dial] "RIG" = some dial := rfl
  have hcheck : dial.commands.check? "TURN" =
      some fun params => if params = "5" then .ok () else .error "out of range" := rfl
  have hexpand : ∀ params, '$' ∉ params.toList → MacroTable.expand {} params = params :=
    fun params h => MacroTable.expand_of_dollar_not_mem _ h
  have hturn : ∀ line text, Admitted [dial] {} ⟨line, text, .command "RIG" "TURN" "5" false⟩ := by
    intro line text
    refine (admitted_iff rfl).2 ⟨dial, hfind, fun _ => ⟨rfl, fun check h => ?_⟩⟩
    obtain rfl := Option.some.inj (hcheck.symm.trans h)
    rw [hexpand "5" (by decide)]
    rfl
  have hjump : ∀ line text, Admitted [dial] {} ⟨line, text, .jump "TRUE" "END"⟩ := by
    intro line text plugin command params h
    cases h
  have hlabel : ∀ line text, Admitted [dial] {} ⟨line, text, .label "END"⟩ := by
    intro line text plugin command params h
    cases h
  obtain ⟨-, hfails, -, -⟩ := dryRun_decides [dial] (dialProgram "9") { world := () }
  obtain ⟨hpasses, -, -, hruns⟩ := dryRun_decides [dial] (dialProgram "5") { world := () }
  have hpassed : ∃ session', dryRun [dial] (dialProgram "5") { world := () } = .ok 2 session' := by
    refine (hpasses _).2 ⟨?_, rfl⟩
    simp only [dialProgram, List.forall_mem_cons]
    exact ⟨hturn _ _, hjump _ _, hturn _ _, hlabel _ _, by simp⟩
  refine ⟨?_, hpassed, ?_⟩
  · refine (hfails _).2 ⟨[⟨1, "RIG.TURN 5", .command "RIG" "TURN" "5" false⟩,
      ⟨2, "GOTO END", .jump "TRUE" "END"⟩], ⟨3, "RIG.TURN 9", .command "RIG" "TURN" "9" false⟩,
      [⟨4, "LABEL END", .label "END"⟩], rfl, ?_, ?_⟩
    · simp only [List.forall_mem_cons]
      exact ⟨hturn _ _, hjump _ _, by simp⟩
    · have hreject : (if MacroTable.expand {} "9" = "5" then Except.ok ()
          else Except.error "out of range") = .error "out of range" := by
        rw [hexpand "9" (by decide)]
        rfl
      have hrefused : Refused [dial] {} ⟨3, "RIG.TURN 9", .command "RIG" "TURN" "9" false⟩ _ :=
        .rejected rfl hfind rfl rfl hcheck hreject
      rwa [hexpand "9" (by decide)] at hrefused
  · obtain ⟨session', hdry⟩ := hpassed
    let start : Machine Unit := { program := dialProgram "5", session := { world := () } }
    let turn : Step := ⟨1, "RIG.TURN 5", .command "RIG" "TURN" "5" false⟩
    have hstart : Machine.Path [{ dial with enabled := true }] 0 start [] 0 start := .start
    obtain ⟨session₁, hvisited⟩ := hstart.visited_next (s := turn) rfl
    have hcall : (⟨0, turn, start.withSession (·.tick)⟩ : Machine.Visit Unit).call?
        [{ dial with enabled := true }] = some ⟨⟨"RIG", "Dial"⟩, "TURN", "5"⟩ := by
      rw [← hexpand "5" (by decide)]
      rfl
    obtain ⟨-, hcalls⟩ := hruns 2 session' hdry [{ dial with enabled := true }]
      (.cons rfl .nil) 0 start rfl _ _ hvisited
    obtain ⟨h, hfound, -, haccepted⟩ :=
      hcalls _ List.mem_cons_self "RIG" "TURN" "5" _ rfl (by decide) hcall
    obtain rfl : { dial with enabled := true } = h := Option.some.inj hfound
    exact ⟨_, _, hvisited, _, List.mem_cons_self, hcall, haccepted rfl⟩

end Execution

end RigScript
