import RigScript.Proofs.Execution.DryRun
import RigScript.Proofs.Execution.Step
import RigScript.Proofs.Session.Work

/-! ## Paths

An execution is followed entry by entry. A *visit* is an entry with its place and with the machine
that executes it, and a path is the row of visits that leads from a start to where the execution is
now. A program that never ends has paths of every length, so what is said of all paths is said of
it as well. -/

namespace RigScript.Machine

variable {ω : Type}

/-! ### Visits -/

/-- An entry that is executed, and the machine that executes it. -/
structure Visit (ω : Type) where
  place : Nat
  step : Step
  machine : Machine ω

section Path

variable (handles : List (Handle ω)) (delay : Nat) (start : Machine ω)

/-- The visits that lead from the first entry to a place. -/
inductive Path : List (Visit ω) → Nat → Machine ω → Prop where
  | start : Path [] 0 start
  | visit {visits : List (Visit ω)} {place next : Nat} {m m' : Machine ω} {s : Step}
      (hpath : Path visits place m) (hs : m.program.steps[place]? = some s)
      (hstep : step handles delay place s (m.withSession (·.tick)) = .ok next m') :
      Path (visits ++ [⟨place, s, m.withSession (·.tick)⟩]) next m'

/-- All visits of an execution and its end, which is behind the entries or at one that fails. -/
inductive Ends : List (Visit ω) → Ending → Machine ω → Prop where
  | finished {visits : List (Visit ω)} {place : Nat} {m : Machine ω}
      (hpath : Path handles delay start visits place m)
      (hs : m.program.steps[place]? = none) :
      Ends visits (.ok m.stats) (m.noted .info (finishedText m.stats))
  | failed {visits : List (Visit ω)} {place : Nat} {m m' : Machine ω} {s : Step} {e : ExecError}
      (hpath : Path handles delay start visits place m)
      (hs : m.program.steps[place]? = some s)
      (hstep : step handles delay place s (m.withSession (·.tick)) = .error e m') :
      Ends (visits ++ [⟨place, s, m.withSession (·.tick)⟩]) (.error e) (m'.noted .error e.message)

end Path

section Run

variable {handles : List (Handle ω)} {delay fuel place : Nat} {start m m' : Machine ω} {s : Step}
  {visits : List (Visit ω)} {ending : Ending}

theorem runFrom_of_none (hs : m.program.steps[place]? = none) :
    runFrom handles delay (fuel + 1) place m =
      some (.ok m.stats, m.noted .info (finishedText m.stats)) := by
  simp only [runFrom, hs]
  rfl

theorem runFrom_of_ok (hs : m.program.steps[place]? = some s) {next : Nat}
    (hstep : step handles delay place s (m.withSession (·.tick)) = .ok next m') :
    runFrom handles delay (fuel + 1) place m = runFrom handles delay fuel next m' := by
  simp only [runFrom, hs, hstep]

theorem runFrom_of_error (hs : m.program.steps[place]? = some s) {e : ExecError}
    (hstep : step handles delay place s (m.withSession (·.tick)) = .error e m') :
    runFrom handles delay (fuel + 1) place m =
      some (.error e, m'.noted .error e.message) := by
  simp only [runFrom, hs, hstep]
  rfl

/-- A run passes along its path, one step for each visit. -/
theorem run_of_path (hpath : Path handles delay start visits place m) :
    start.run handles delay (visits.length + fuel) = runFrom handles delay fuel place m := by
  induction hpath generalizing fuel with
  | start => rw [List.length_nil, Nat.zero_add, run]
  | visit _ hs hstep ih =>
      rw [List.length_append, List.length_singleton, Nat.add_assoc, ih, Nat.add_comm 1 fuel]
      exact runFrom_of_ok hs hstep

theorem ends_of_runFrom (hpath : Path handles delay start visits place m)
    (h : runFrom handles delay fuel place m = some (ending, m')) :
    ∃ all, Ends handles delay start all ending m' := by
  induction fuel generalizing visits place m with
  | zero => cases h
  | succ fuel ih =>
      cases hs : m.program.steps[place]? with
      | none =>
          rw [runFrom_of_none hs] at h
          cases h
          exact ⟨_, .finished hpath hs⟩
      | some s =>
          cases hstep : step handles delay place s (m.withSession (·.tick)) with
          | ok next m₁ =>
              rw [runFrom_of_ok hs hstep] at h
              exact ih (.visit hpath hs hstep) h
          | error e m₁ =>
              rw [runFrom_of_error hs hstep] at h
              cases h
              exact ⟨_, .failed hpath hs hstep⟩

/-- A run that ends has ended along some path. -/
theorem ends_of_run (h : start.run handles delay fuel = some (ending, m')) :
    ∃ all, Ends handles delay start all ending m' :=
  ends_of_runFrom .start h

/-- An execution that ends does so in as many steps as it has visits. -/
theorem run_of_ends (h : Ends handles delay start visits ending m') (hfuel : visits.length < fuel) :
    start.run handles delay fuel = some (ending, m') := by
  obtain ⟨spare, rfl⟩ := Nat.exists_eq_add_of_lt hfuel
  cases h with
  | finished hpath hs =>
      rw [Nat.add_assoc, run_of_path hpath]
      exact runFrom_of_none hs
  | failed hpath hs hstep =>
      rw [List.length_append, Nat.add_assoc, Nat.add_assoc, run_of_path hpath]
      exact runFrom_of_error hs hstep

end Run

/-! ### What a command does -/

section Command

variable (handles : List (Handle ω)) (m : Machine ω) (plugin command params : String)

/-- The handler that a command is put to, and its plugin. -/
def addressee? : Option (Handle ω × Handler ω) :=
  (Registry.findIn handles plugin).bind fun h =>
    (h.commands.handler? command).bind fun handler =>
      if h.enabled || h.faultTolerant then some (h, handler) else none

/-- The call of a handler that a command makes. -/
def makes? : Option Call :=
  (addressee? handles plugin command).map fun (h, _) =>
    ⟨h.identity, command, m.program.macros.expand params⟩

/-- The text that a command yields: what its handler replies, or the empty text if the script goes
on after a failure. There is none if the script stops. -/
def answer? : Option String :=
  (Registry.findIn handles plugin).bind fun h =>
    let afterFailure := if h.faultTolerant then some "" else none
    match h.commands.handler? command with
    | none => afterFailure
    | some handler =>
      if h.enabled || h.faultTolerant then
        match m.reply handler (m.program.macros.expand params) with
        | .ok text => some text
        | .error _ => afterFailure
      else none

variable {handles m plugin command params} {line delay : Nat}

theorem Resolved.addressee?_eq
    {result : EStateM.Result ExecError (Machine ω) (Option (Handle ω × Handler ω))}
    (h : Resolved handles line plugin command m result) :
    addressee? handles plugin command =
      match result with
      | .ok addressee _ => addressee
      | .error _ _ => none := by
  cases h with
  | unknown hfind => simp [addressee?, hfind]
  | skipped hfind hhandler _ => simp [addressee?, hfind, hhandler]
  | unsupported hfind hhandler _ => simp [addressee?, hfind, hhandler]
  | notReady hfind hhandler hstrict hdisabled =>
      simp [addressee?, hfind, hhandler, hstrict, hdisabled]
  | found hfind hhandler hready => simp [addressee?, hfind, hhandler, hready]

theorem Resolved.makes?_eq_none {e : ExecError} {m' : Machine ω}
    (h : Resolved handles line plugin command m (.error e m')) :
    makes? handles m plugin command params = none := by
  rw [makes?, h.addressee?_eq]
  rfl

theorem Resolved.makes?_eq_some {h : Handle ω} {handler : Handler ω}
    (hresolved : Resolved handles line plugin command m (.ok (some (h, handler)) m)) :
    makes? handles m plugin command params =
      some ⟨h.identity, command, m.program.macros.expand params⟩ := by
  rw [makes?, hresolved.addressee?_eq]
  rfl

theorem Resolved.handler?_eq {h : Handle ω} {handler : Handler ω}
    (hresolved : Resolved handles line plugin command m (.ok (some (h, handler)) m))
    (params : String) : Call.handler? ⟨h.identity, command, params⟩ handles = some handler := by
  cases hresolved with
  | found hfind hhandler _ =>
      have hname : h.name = plugin := by simpa using List.find?_some hfind
      simp [Call.handler?, Handle.identity, hname, hfind, hhandler]

theorem makes?_of_missing {h : Handle ω} (hfind : Registry.findIn handles plugin = some h)
    (hhandler : h.commands.handler? command = none) :
    makes? handles m plugin command params = none := by
  simp [makes?, addressee?, hfind, hhandler]

theorem Resolved.acted_of_error {e : ExecError} {m' : Machine ω}
    (h : Resolved handles line plugin command m (.error e m')) :
    Session.Acted handles m.session none none m'.session := by
  cases h <;> exact .nothing rfl rfl rfl

/-- A command that the script waits for writes its call, and leaves the workers alone. -/
theorem Dispatched.acted {result : EStateM.Result ExecError (Machine ω) String}
    (h : Dispatched handles line plugin command m delay params result) :
    Session.Acted handles m.session (makes? handles m plugin command params) none
      (Action.state result).session := by
  cases h with
  | refused hresolved =>
      rw [hresolved.makes?_eq_none]
      exact hresolved.acted_of_error
  | skipped hfind hhandler _ =>
      rw [makes?_of_missing hfind hhandler]
      exact .nothing rfl rfl rfl
  | returned hresolved hexpanded _ =>
      rw [hresolved.makes?_eq_some, ← hexpanded]
      exact .calling (hresolved.handler?_eq _) rfl rfl rfl
  | recovered hresolved hexpanded _ _ =>
      rw [hresolved.makes?_eq_some, ← hexpanded]
      exact .calling (hresolved.handler?_eq _) rfl rfl rfl
  | failed hresolved hexpanded _ _ =>
      rw [hresolved.makes?_eq_some, ← hexpanded]
      exact .calling (hresolved.handler?_eq _) rfl rfl rfl

/-- A command that is left to the workers becomes one of their tasks. -/
theorem HandedOver.acted {result : EStateM.Result ExecError (Machine ω) Unit}
    (h : HandedOver handles line plugin command m delay params result) :
    Session.Acted handles m.session none (makes? handles m plugin command params)
      (Action.state result).session := by
  cases h with
  | refused hresolved =>
      rw [hresolved.makes?_eq_none]
      exact hresolved.acted_of_error
  | skipped hfind hhandler _ =>
      rw [makes?_of_missing hfind hhandler]
      exact .nothing rfl rfl rfl
  | spawned hresolved =>
      rw [hresolved.makes?_eq_some]
      exact .handingOver (hresolved.handler?_eq _) rfl rfl rfl

/-- A command yields its answer, and stops the script if it has none. -/
theorem Dispatched.answer?_eq {result : EStateM.Result ExecError (Machine ω) String}
    (h : Dispatched handles line plugin command m delay params result) :
    answer? handles m plugin command params =
      match result with
      | .ok text _ => some text
      | .error _ _ => none := by
  cases h with
  | refused hresolved =>
      cases hresolved with
      | unknown hfind => simp [answer?, hfind]
      | unsupported hfind hhandler hstrict => simp [answer?, hfind, hhandler, hstrict]
      | notReady hfind hhandler hstrict hdisabled =>
          simp [answer?, hfind, hhandler, hstrict, hdisabled]
  | skipped hfind hhandler htolerant => simp [answer?, hfind, hhandler, htolerant]
  | returned hresolved hexpanded hreply =>
      cases hresolved with
      | found hfind hhandler hready =>
          subst hexpanded
          simp [answer?, hfind, hhandler, hready, hreply]
  | recovered hresolved hexpanded hreply htolerant =>
      cases hresolved with
      | found hfind hhandler _ =>
          subst hexpanded
          simp [answer?, hfind, hhandler, hreply, htolerant]
  | failed hresolved hexpanded hreply hstrict =>
      cases hresolved with
      | found hfind hhandler _ =>
          subst hexpanded
          simp [answer?, hfind, hhandler, hreply, hstrict]

end Command

/-! ### What a visit does -/

namespace Visit

variable (handles : List (Handle ω)) (v : Visit ω)

/-- The call that a visit makes and waits for. -/
def called? : Option Call :=
  match v.step.entry with
  | .command plugin command params false | .assign plugin command params _ _ =>
    makes? handles v.machine plugin command params
  | .command _ _ _ true | .jump .. | .label _ => none

/-- The call that a visit leaves to the workers. -/
def handedOver? : Option Call :=
  match v.step.entry with
  | .command plugin command params true => makes? handles v.machine plugin command params
  | .command _ _ _ false | .assign .. | .jump .. | .label _ => none

end Visit

variable {handles : List (Handle ω)} {delay place : Nat} {start m m' : Machine ω} {s : Step}
  {visits : List (Visit ω)} {ending : Ending}

/-- What a visit does to the session. -/
theorem Stepped.acted {result : EStateM.Result ExecError (Machine ω) Nat}
    (h : Stepped handles delay place s m result) :
    Session.Acted handles m.session (Visit.called? handles ⟨place, s, m⟩)
      (Visit.handedOver? handles ⟨place, s, m⟩) (Action.state result).session := by
  unfold Visit.called? Visit.handedOver?
  cases h with
  | command hentry hdispatch => simpa [hentry] using hdispatch.acted
  | commandFault hentry hdispatch => simpa [hentry] using hdispatch.acted
  | detached hentry hdispatch => simpa [hentry] using hdispatch.acted
  | detachedFault hentry hdispatch => simpa [hentry] using hdispatch.acted
  | assign hentry hdispatch =>
      simp only [hentry]
      -- The variable that receives the result is none of the session's business.
      obtain ⟨htrace, hidle, hanswered, hkept, hspawned⟩ := hdispatch.acted
      exact ⟨htrace, hidle, hanswered, hkept, hspawned⟩
  | assignFault hentry hdispatch => simpa [hentry] using hdispatch.acted
  | jump hentry hjump =>
      simp only [hentry]
      cases hjump <;> exact .nothing rfl rfl rfl
  | label hentry =>
      simp only [hentry]
      exact .nothing rfl rfl rfl

section Session

variable {P : List (Visit ω) → Session ω → Prop}
  (htick : ∀ visits session, P visits session → P visits session.tick)
  (hact : ∀ visits (v : Visit ω) session, P visits v.machine.session →
    Session.Acted handles v.machine.session (v.called? handles) (v.handedOver? handles) session →
    P (visits ++ [v]) session)
include htick hact

/-- What is kept when workers move and when a visit acts, is kept along a path. -/
theorem Path.session_induction (hstart : P [] start.session)
    (hpath : Path handles delay start visits place m) : P visits m.session := by
  induction hpath with
  | start => exact hstart
  | @visit visits place _ m _ s _ _ hstep ih =>
      have hacted := (step_stepped handles delay place s (m.withSession (·.tick))).acted
      rw [hstep] at hacted
      exact hact visits ⟨place, s, m.withSession (·.tick)⟩ _ (htick _ _ ih) hacted

theorem Ends.session_induction
    (hnote : ∀ visits session severity text, P visits session →
      P visits (session.note severity text))
    (hstart : P [] start.session) (hends : Ends handles delay start visits ending m) :
    P visits m.session := by
  cases hends with
  | finished hpath _ => exact hnote _ _ _ _ (hpath.session_induction htick hact hstart)
  | @failed visits place m _ s _ hpath _ hstep =>
      have hacted := (step_stepped handles delay place s (m.withSession (·.tick))).acted
      rw [hstep] at hacted
      have hvisited := hpath.session_induction htick hact hstart
      exact hnote _ _ _ _
        (hact visits ⟨place, s, m.withSession (·.tick)⟩ _ (htick _ _ hvisited) hacted)

end Session

/-- The calls of a session are those that the visits made, and of the calls that visits left to the
workers none is forgotten. -/
structure CallsOf (handles : List (Handle ω)) (start : Machine ω) (visits : List (Visit ω))
    (session : Session ω) : Prop where
  calls : session.calls = start.session.calls ++ visits.filterMap (·.called? handles)
  entrusted :
    session.entrusted = start.session.entrusted ++ visits.filterMap (·.handedOver? handles)

theorem CallsOf.nil : CallsOf handles start [] start.session := ⟨by simp, by simp⟩

theorem CallsOf.tick {session : Session ω} (h : CallsOf handles start visits session) :
    CallsOf handles start visits session.tick :=
  ⟨session.calls_tick.trans h.calls, session.entrusted_tick.trans h.entrusted⟩

theorem CallsOf.act {v : Visit ω} {session : Session ω}
    (h : CallsOf handles start visits v.machine.session)
    (hacted : Session.Acted handles v.machine.session (v.called? handles) (v.handedOver? handles)
      session) :
    CallsOf handles start (visits ++ [v]) session where
  calls := by
    rw [hacted.calls_eq, h.calls, List.append_assoc, List.filterMap_append]
    cases hcalled : v.called? handles <;> simp [hcalled]
  entrusted := by
    rw [hacted.entrusted_eq, h.entrusted, List.append_assoc, List.filterMap_append]
    cases hhanded : v.handedOver? handles <;> simp [hhanded]

theorem Path.callsOf (hpath : Path handles delay start visits place m) :
    CallsOf handles start visits m.session :=
  hpath.session_induction (fun _ _ h => h.tick) (fun _ _ _ h hacted => h.act hacted) .nil

theorem Ends.callsOf (hends : Ends handles delay start visits ending m) :
    CallsOf handles start visits m.session :=
  hends.session_induction (fun _ _ h => h.tick) (fun _ _ _ h hacted => h.act hacted)
    (fun _ _ _ _ h => ⟨h.calls, h.entrusted⟩) .nil

theorem Path.working {base : List Event} (hstart : Session.Working base start.session)
    (hpath : Path handles delay start visits place m) : Session.Working base m.session :=
  hpath.session_induction (P := fun _ => Session.Working base) (fun _ _ h => h.tick)
    (fun _ _ _ h hacted => h.acted hacted) hstart

theorem Ends.working {base : List Event} (hstart : Session.Working base start.session)
    (hends : Ends handles delay start visits ending m) : Session.Working base m.session :=
  hends.session_induction (P := fun _ => Session.Working base) (fun _ _ h => h.tick)
    (fun _ _ _ h hacted => h.acted hacted) (fun _ _ _ _ h => h.note _ _) hstart

/-! ### What has been visited -/

/-- The visits that an execution has made so far, and its session. The last visit may have
failed. -/
def Visited (handles : List (Handle ω)) (delay : Nat) (start : Machine ω) (visits : List (Visit ω))
    (session : Session ω) : Prop :=
  (∃ place m, Path handles delay start visits place m ∧ m.session = session) ∨
    ∃ ending m, Ends handles delay start visits ending m ∧ m.session = session

theorem Visited.callsOf {session : Session ω}
    (h : Visited handles delay start visits session) :
    CallsOf handles start visits session := by
  rcases h with ⟨place, m, hpath, rfl⟩ | ⟨ending, m, hends, rfl⟩
  · exact hpath.callsOf
  · exact hends.callsOf

/-- Whatever comes of it, the entry that an execution has arrived at is visited next. -/
theorem Path.visited_next (hpath : Path handles delay start visits place m)
    (hs : m.program.steps[place]? = some s) :
    ∃ session, Visited handles delay start (visits ++ [⟨place, s, m.withSession (·.tick)⟩])
      session := by
  cases hstep : step handles delay place s (m.withSession (·.tick)) with
  | ok next m' => exact ⟨_, .inl ⟨_, _, .visit hpath hs hstep, rfl⟩⟩
  | error e m' => exact ⟨_, .inr ⟨_, _, .failed hpath hs hstep, rfl⟩⟩

end RigScript.Machine
