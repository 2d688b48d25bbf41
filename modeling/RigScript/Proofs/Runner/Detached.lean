import Mathlib
import RigScript.Proofs.Execution.Lockstep
import RigScript.Proofs.Runner.Stages
import RigScript.Proofs.Session.Ledger

/-! ## Detached work in a run

Detached commands do nothing to the script that hands them out: two runs whose workers differ in
what they do and when they do it end alike, and their reports differ in the number of failures
only. That number is exact. -/

namespace RigScript

/-! ### Executions and their tasks -/

namespace Machine

variable {ω : Type} {handles : List (Handle ω)} {delay place : Nat} {start m : Machine ω} {s : Step}
  {visits : List (Visit ω)} {session : Session ω} {ending : Ending}

/-- As many commands are counted as detached as were handed to the workers. -/
def Counted (m : Machine ω) : Prop := m.stats.detached = m.session.pool.spawned

theorem Counted.dispatched {line : Nat} {plugin command params : String}
    {result : EStateM.Result ExecError (Machine ω) String} (hm : m.Counted)
    (h : Dispatched handles line plugin command m delay params result) :
    (Action.state result).Counted := by
  cases h with
  | refused hresolved => cases hresolved <;> exact hm
  | _ => exact hm

theorem Counted.handedOver {line : Nat} {plugin command params : String}
    {result : EStateM.Result ExecError (Machine ω) Unit} (hm : m.Counted)
    (h : HandedOver handles line plugin command m delay params result) :
    (Action.state result).Counted := by
  cases h with
  | refused hresolved => cases hresolved <;> exact hm
  | skipped _ _ _ => exact hm
  | spawned _ => exact congrArg (· + 1) hm

theorem Counted.stepped {result : EStateM.Result ExecError (Machine ω) Nat} (hm : m.Counted)
    (h : Stepped handles delay place s m result) : (Action.state result).Counted := by
  cases h with
  | command _ hdispatch => exact hm.dispatched hdispatch
  | commandFault _ hdispatch => exact hm.dispatched hdispatch
  | detached _ hdispatch => exact hm.handedOver hdispatch
  | detachedFault _ hdispatch => exact hm.handedOver hdispatch
  | assign _ hdispatch => exact hm.dispatched hdispatch
  | assignFault _ hdispatch => exact hm.dispatched hdispatch
  | jump _ hjump => cases hjump <;> exact hm
  | label _ => exact hm

theorem Counted.tick (hm : m.Counted) : (m.withSession (·.tick)).Counted :=
  hm.trans m.session.spawned_tick.symm

theorem Path.counted (hstart : start.Counted) (hpath : Path handles delay start visits place m) :
    m.Counted := by
  induction hpath with
  | start => exact hstart
  | @visit visits place _ m _ s _ _ hstep ih =>
      have hstepped := step_stepped handles delay place s (m.withSession (·.tick))
      rw [hstep] at hstepped
      exact ih.tick.stepped hstepped

/-- At the end of an execution that has succeeded its detached commands are counted. -/
theorem Ends.counted {stats : Stats} (hstart : start.Counted)
    (hends : Ends handles delay start visits (.ok stats) m) :
    stats.detached = m.session.pool.spawned := by
  cases hends with
  | finished hpath _ => exact hpath.counted hstart

/-- However far an execution has come, there is a ledger of its session, with the calls that visits
have left to the workers. -/
theorem Visited.booked (hfresh : start.session.pool = {})
    (h : Visited handles delay start visits session) :
    Session.Booked handles start.session (visits.filterMap (·.handedOver? handles)) session := by
  -- A visit leaves one call to the workers or none, and the session keeps step with it.
  have hact : ∀ (visits : List (Visit ω)) (v : Visit ω) session,
      Session.Booked handles start.session (visits.filterMap (·.handedOver? handles))
        v.machine.session →
      Session.Acted handles v.machine.session (v.called? handles) (v.handedOver? handles) session →
      Session.Booked handles start.session ((visits ++ [v]).filterMap (·.handedOver? handles))
        session := by
    intro visits v session h hacted
    rw [List.filterMap_append]
    have hbooked := h.acted hacted
    cases hhanded : v.handedOver? handles <;> simpa [hhanded] using hbooked
  rcases h with ⟨place, m, hpath, rfl⟩ | ⟨ending, m, hends, rfl⟩
  · exact hpath.session_induction (fun _ _ h => h.tick) hact (Session.booked_self hfresh)
  · exact hends.session_induction (fun _ _ h => h.tick) hact (fun _ _ _ _ h => h.note _ _)
      (Session.booked_self hfresh)

/-- When everybody has been waited for, what the visits have left to the workers is settled. -/
theorem Visited.settled (hfresh : start.session.pool = {})
    (h : Visited handles delay start visits session) :
    ∃ events, Session.Settled handles start.session (visits.filterMap (·.handedOver? handles))
      events session.joinAll :=
  (h.booked hfresh).joinAll.settled session.joinAll_tasks

end Machine

/-- A report without the number of failures among the detached commands. -/
def Report.apart (report : Report) : Report := { report with detachedFailures := 0 }

namespace Runner

variable {ω ω' : Type} {r : Runner ω} {r' : Runner ω'} {p : Program} {session : Session ω}
  {session' : Session ω'} {registry : Registry ω} {registry' : Registry ω'}

/-- Another run of the program, with plugins that are alike and answer alike. Nothing is said of
what its workers do, or when. -/
structure Twin (r : Runner ω) (p : Program) (registry : Registry ω) (r' : Runner ω')
    (session' : Session ω') (registry' : Registry ω') : Prop where
  full : r'.validateOnly = false
  prepared : r'.prepare p { session := session' } = .ok () registry'
  delay : r'.settings.commandDelay = r.settings.commandDelay
  alike : List.Forall₂ Handle.Alike registry.handles registry'.handles
  answers : Machine.AnswersAlike registry.handles registry'.handles r.settings.commandDelay
    { program := p, session := registry.session } { program := p, session := registry'.session }

/-- Once it is prepared a program is executed, and then the run is concluded. -/
theorem execute_of_prepare (hfull : r.validateOnly = false)
    (hprepare : r.prepare p { session } = .ok () registry) (fuel : Nat) :
    r.execute p session fuel =
      (Machine.run { program := p, session := registry.session } registry.handles
        r.settings.commandDelay fuel).map fun (ending, m) =>
          conclude { registry with session := m.session } ending := by
  unfold execute
  simp only [hfull, hprepare, Bool.false_eq_true, if_false]
  cases Machine.run { program := p, session := registry.session } registry.handles
    r.settings.commandDelay fuel <;> rfl

/-- What is told of a run, apart from failures among its detached commands. -/
def told (registry : Registry ω) (ending : Machine.Ending) : Except RunError Report :=
  match ending with
  | .error e => .error (.exec e)
  | .ok stats => .ok (report registry.names stats 0)

theorem conclude_apart (registry : Registry ω) (ending : Machine.Ending) :
    (conclude registry ending).1.map Report.apart = told registry ending := by
  cases ending <;> rfl

theorem names_of_alike {handles : List (Handle ω)} {handles' : List (Handle ω')}
    (halike : List.Forall₂ Handle.Alike handles handles') :
    handles.map (·.name) = handles'.map (·.name) := by
  induction halike with
  | nil => rfl
  | cons hhead _ ih => rw [List.map_cons, List.map_cons, hhead.name, ih]

theorem Twin.told_eq (h : Twin r p registry r' session' registry') (s : Session ω)
    (s' : Session ω') (ending : Machine.Ending) :
    told { registry with session := s } ending = told { registry' with session := s' } ending := by
  cases ending with
  | error e => rfl
  | ok stats =>
      exact congrArg (fun names => Except.ok (report names stats 0)) (names_of_alike h.alike)

theorem Twin.run_eq (h : Twin r p registry r' session' registry') (fuel : Nat) :
    (Machine.run { program := p, session := registry.session } registry.handles
      r.settings.commandDelay fuel).map Machine.gist =
    (Machine.run { program := p, session := registry'.session } registry'.handles
      r'.settings.commandDelay fuel).map Machine.gist := by
  rw [h.delay]
  exact Machine.run_lockstep h.alike h.answers ⟨rfl, rfl⟩ fuel

theorem Twin.execute_eq (h : Twin r p registry r' session' registry')
    (hfull : r.validateOnly = false) (hprepare : r.prepare p { session } = .ok () registry)
    (fuel : Nat) :
    (r.execute p session fuel).map (·.1.map Report.apart) =
      (r'.execute p session' fuel).map (·.1.map Report.apart) := by
  have hrun := h.run_eq fuel
  rw [execute_of_prepare hfull hprepare, execute_of_prepare h.full h.prepared]
  generalize Machine.run { program := p, session := registry.session } registry.handles
    r.settings.commandDelay fuel = ran at hrun ⊢
  generalize Machine.run { program := p, session := registry'.session } registry'.handles
    r'.settings.commandDelay fuel = ran' at hrun ⊢
  cases ran <;> cases ran'
  case none.none => rfl
  case some.some result result' =>
    have hending : result.1 = result'.1 := congrArg Prod.fst (Option.some.inj hrun)
    simp only [Option.map_some, conclude_apart, hending]
    exact congrArg some (h.told_eq _ _ _)
  case none.some => cases hrun
  case some.none => cases hrun

theorem pool_of_prepare (hfresh : session.pool = {})
    (hprepare : r.prepare p { session } = .ok () registry) : registry.session.pool = {} := by
  have hidle : session.pool.tasks = [] := by rw [hfresh]
  obtain ⟨fault, loading, checks, hcourse⟩ := course_of_prepare hidle r p
  rw [hprepare] at hcourse
  exact hcourse.adds.pool.trans hfresh

/-- When a run has succeeded, what its visits have left to the workers is settled. -/
theorem settled_of_execute (hfull : r.validateOnly = false) (hfresh : session.pool = {})
    (hprepare : r.prepare p { session } = .ok () registry) {fuel : Nat} {report : Report}
    {session₁ : Session ω} (h : r.execute p session fuel = some (.ok report, session₁)) :
    report.detached = session₁.pool.spawned ∧
    report.detachedFailures = session₁.pool.failures ∧
    ∃ visits stats m events,
      Machine.Ends registry.handles r.settings.commandDelay
        { program := p, session := registry.session } visits (.ok stats) m ∧
      Session.Settled registry.handles registry.session
        (visits.filterMap (·.handedOver? registry.handles)) events session₁ := by
  have hpool := pool_of_prepare hfresh hprepare
  rw [execute_of_prepare hfull hprepare] at h
  obtain ⟨⟨ending, m⟩, hrun, hconclude⟩ := Option.map_eq_some_iff.1 h
  obtain ⟨visits, hends⟩ := Machine.ends_of_run hrun
  obtain ⟨events, hsettled⟩ := Machine.Visited.settled hpool (.inr ⟨ending, m, hends, rfl⟩)
  have hadds := adds_conclude { registry with session := m.session } ending
  dsimp only at hconclude
  rw [hconclude] at hadds
  cases ending with
  | error e => cases hconclude
  | ok stats =>
      have hstart : Machine.Counted { program := p, session := registry.session } := by
        rw [Machine.Counted, hpool]
      have hcounted : stats.detached = m.session.pool.spawned := hends.counted hstart
      -- What plugins write when they go tells of no task.
      have hgoing : ∀ e ∈ registry.handles.reverse.flatMap Handle.down, e.outcome? = none := by
        intro e he
        have hphase := Handle.phase?_of_going he
        cases e <;> first | rfl | cases hphase
      have hreport : Runner.report registry.names stats m.session.joinAll.pool.failures = report :=
        Except.ok.inj (congrArg Prod.fst hconclude)
      subst hreport
      refine ⟨?_, ?_, visits, stats, m, _, hends, hsettled.adds hadds hgoing⟩
      · rw [hadds.pool, Session.spawned_joinAll]
        exact hcounted
      · rw [hadds.pool]
        rfl

/-- Detached work and its account. Whatever the workers do with the jobs that they are given, and
whenever they do it, a run in which the handlers answer alike that the script waits for comes to the
same end, with the same variables and the same counts, and its report differs in the number of
failures only. If it succeeds, each call that its visits have left to the workers has been finished
just once by then, with what the job of its handler returned, and the number of failures is that of
the jobs that have failed or broken down. Whenever everybody is waited for, no task is left, and all
this holds of the calls that were left to the workers so far. -/
theorem detached_of_execute (hfull : r.validateOnly = false) (hfresh : session.pool = {})
    (hprepare : r.prepare p { session } = .ok () registry) :
    (∀ (ω' : Type) (r' : Runner ω') session' registry', Twin r p registry r' session' registry' →
      ∀ fuel,
        (Machine.run { program := p, session := registry.session } registry.handles
          r.settings.commandDelay fuel).map Machine.gist =
        (Machine.run { program := p, session := registry'.session } registry'.handles
          r'.settings.commandDelay fuel).map Machine.gist ∧
        (r.execute p session fuel).map (·.1.map Report.apart) =
          (r'.execute p session' fuel).map (·.1.map Report.apart)) ∧
    (∀ fuel report session₁, r.execute p session fuel = some (.ok report, session₁) →
      report.detached = session₁.pool.spawned ∧
      report.detachedFailures = session₁.pool.failures ∧
      ∃ visits stats m events,
        Machine.Ends registry.handles r.settings.commandDelay
          { program := p, session := registry.session } visits (.ok stats) m ∧
        Session.Settled registry.handles registry.session
          (visits.filterMap (·.handedOver? registry.handles)) events session₁) ∧
    ∀ visits session₁, Machine.Visited registry.handles r.settings.commandDelay
      { program := p, session := registry.session } visits session₁ →
      ∃ events, Session.Settled registry.handles registry.session
        (visits.filterMap (·.handedOver? registry.handles)) events session₁.joinAll := by
  refine ⟨fun ω' r' session' registry' htwin fuel => ?_, fun fuel report session₁ h => ?_,
    fun visits session₁ hvisited => ?_⟩
  · exact ⟨htwin.run_eq fuel, htwin.execute_eq hfull hprepare fuel⟩
  · exact settled_of_execute hfull hfresh hprepare h
  · exact hvisited.settled (pool_of_prepare hfresh hprepare)

/-- A plugin whose only command can be left to a worker, where this is what comes of it. -/
def bell (job : String → StateM Unit Outcome) : Plugin Unit where
  model := "Bell"
  version := fun _ => "1.0.0.0"
  commands := fun _ => CommandTable.register {} "RING" { call := fun _ => pure (.ok ""), job }

def bellRunner (job : String → StateM Unit Outcome) : Runner Unit where
  source := fun path => .error ("no " ++ path)
  builtIns := [("BELL", bell job)]

def bellHandle (job : String → StateM Unit Outcome) : Handle Unit where
  name := "BELL"
  plugin := bell job
  version := ⟨1, 0, 0, 0⟩
  commands := (bell job).commands ()
  enabled := true

/-- The bell is rung once, and three times more by workers. -/
def bellProgram : Program where
  required := [⟨"BELL", none, 1⟩]
  steps := [⟨2, "BELL.RING", .command "BELL" "RING" "" false⟩,
    ⟨3, "BELL.RING 1 &", .command "BELL" "RING" "1" true⟩,
    ⟨4, "BELL.RING 2 &", .command "BELL" "RING" "2" true⟩,
    ⟨5, "BELL.RING 3 &", .command "BELL" "RING" "3" true⟩]

/-- One of the workers fails, and one breaks down. -/
def brittle (params : String) : StateM Unit Outcome :=
  pure (if params = "1" then .failed "stuck" else if params = "2" then .crashed else .done "")

def sturdy (_ : String) : StateM Unit Outcome := pure (.done "")

/-- The workers are done with the second task before they start the first one. -/
def crossed : Schedule
  | 4 => [.start 1, .finish 1, .start 0]
  | _ => []

def bellSession (schedule : Schedule) : Session Unit := { world := (), schedule }

def bellCall (params : String) : Call := ⟨⟨"BELL", "Bell"⟩, "RING", params⟩

/-- What is written before the bell is rung. -/
def bellHooks : List Event := [.initialized ⟨"BELL", "Bell"⟩, .enabled ⟨"BELL", "Bell"⟩]

/-- What is written while it is rung, if one worker fails and one breaks down. -/
def bellWork : List Event :=
  [.called (bellCall ""), .started 1 (bellCall "2"), .finished 1 (bellCall "2") .crashed,
    .started 0 (bellCall "1"), .finished 0 (bellCall "1") (.failed "stuck"),
    .started 2 (bellCall "3"), .finished 2 (bellCall "3") (.done "")]

theorem prepare_bell (job : String → StateM Unit Outcome) (schedule : Schedule) :
    ∃ ready, (bellRunner job).prepare bellProgram { session := bellSession schedule } =
      .ok () { handles := [bellHandle job], session := ready } ∧ ready.trace = bellHooks := by
  refine ⟨(Action.state
    ((bellRunner job).prepare bellProgram { session := bellSession schedule })).session, ?_, ?_⟩
  · cbv
  · cbv

theorem handler?_bellHandle (job : String → StateM Unit Outcome) (command : String) :
    (bellHandle job).commands.handler? command =
      if command = "RING" then some { call := fun _ => pure (.ok ""), job } else none := by
  change (CommandTable.register {} "RING" _).handler? command = _
  rw [CommandTable.handler?_register]
  rfl

/-- The bell answers nothing. -/
theorem reply?_bell (job : String → StateM Unit Outcome) (v : Machine.Visit Unit) {reply : Reply}
    (h : v.reply? [bellHandle job] = some reply) : reply = .ok "" := by
  have hreply : ∀ plugin command params,
      (Machine.addressee? [bellHandle job] plugin command).map (fun (_, handler) =>
        v.machine.reply handler (v.machine.program.macros.expand params)) = some reply →
      reply = .ok "" := by
    intro plugin command params h
    obtain ⟨⟨g, handler⟩, haddressee, rfl⟩ := Option.map_eq_some_iff.1 h
    obtain ⟨f, hfind, hasked⟩ := Option.bind_eq_some_iff.1 haddressee
    obtain rfl := List.mem_singleton.1 (List.mem_of_find?_eq_some hfind)
    obtain ⟨handler', hhandler, hready⟩ := Option.bind_eq_some_iff.1 hasked
    rw [handler?_bellHandle, Option.ite_none_right_eq_some] at hhandler
    obtain ⟨-, hhandler⟩ := hhandler
    cases hhandler
    cases hready
    rfl
  unfold Machine.Visit.reply? at h
  split at h
  · exact hreply _ _ _ h
  · exact hreply _ _ _ h
  all_goals cases h

theorem twin_bell (job job' : String → StateM Unit Outcome) (ready : Session Unit)
    {session' ready' : Session Unit}
    (hprepare : (bellRunner job').prepare bellProgram { session := session' } =
      .ok () { handles := [bellHandle job'], session := ready' }) :
    Twin (bellRunner job) bellProgram { handles := [bellHandle job], session := ready }
      (bellRunner job') session' { handles := [bellHandle job'], session := ready' } where
  full := rfl
  prepared := hprepare
  delay := rfl
  alike := by
    refine .cons ⟨rfl, rfl, rfl, fun command => ?_⟩ .nil
    rw [CommandTable.contains_eq_isSome, CommandTable.contains_eq_isSome, handler?_bellHandle,
      handler?_bellHandle]
    split <;> rfl
  answers := by
    intro visits _ visits' _ _ _ k answer answer' hanswer hanswer'
    obtain ⟨v, -, hv⟩ := List.mem_filterMap.1 (List.mem_of_getElem? hanswer)
    obtain ⟨v', -, hv'⟩ := List.mem_filterMap.1 (List.mem_of_getElem? hanswer')
    rw [reply?_bell job v hv, reply?_bell job' v' hv']

/-- A run in which two workers of three fail, in an order of their own, against one in which nobody
does. -/
theorem detached_of_execute_bell :
    ∃ ready report session, (bellRunner brittle).execute bellProgram (bellSession crossed) 5 =
        some (.ok report, session) ∧ report.detached = 3 ∧ report.detachedFailures = 2 ∧
      Session.Settled [bellHandle brittle] ready (["1", "2", "3"].map bellCall) bellWork session ∧
      outcomes bellWork = [(1, .crashed), (0, .failed "stuck"), (2, .done "")] ∧
      ((bellRunner sturdy).execute bellProgram (bellSession .idle) 5).map (·.1.map Report.apart) =
        some (.ok report.apart) := by
  let report : Report :=
    { plugins := ["BELL"], executed := 4, detached := 3, detachedFailures := 2 }
  have hrun : ((bellRunner brittle).execute bellProgram (bellSession crossed) 5).map
      (fun result => (result.1, result.2.trace)) =
      some (.ok report, bellHooks ++ bellWork) := by decide +kernel
  obtain ⟨⟨result, session⟩, hexecute, hresult⟩ := Option.map_eq_some_iff.1 hrun
  obtain ⟨hreport, htrace⟩ := Prod.mk.inj hresult
  dsimp only at hreport htrace
  subst hreport
  obtain ⟨ready, hprepare, hready⟩ := prepare_bell brittle crossed
  obtain ⟨ready', hprepare', -⟩ := prepare_bell sturdy .idle
  have hdetached := detached_of_execute rfl rfl hprepare
  obtain ⟨hspawned, -, visits, stats, m, events, -, hsettled⟩ :=
    hdetached.2.1 5 report session hexecute
  have hevents := hsettled.trace
  rw [htrace, hready, List.append_cancel_left_eq] at hevents
  subst hevents
  generalize visits.filterMap (·.handedOver? [bellHandle brittle]) = calls at hsettled
  -- The trace tells which calls there were.
  have hcalls : calls = ["1", "2", "3"].map bellCall := by
    obtain ⟨first, second, third, rfl⟩ :=
      List.length_eq_three.1 (hsettled.spawned.symm.trans hspawned.symm)
    have hfirst := (hsettled.returned (bellWork.take 4) 0 _ _ (List.take_prefix 5 bellWork)).1
    have hsecond := (hsettled.returned (bellWork.take 2) 1 _ _ (List.take_prefix 3 bellWork)).1
    have hthird := (hsettled.returned (bellWork.take 6) 2 _ _ (List.take_prefix 7 bellWork)).1
    obtain rfl := Option.some.inj hfirst
    obtain rfl := Option.some.inj hsecond
    obtain rfl := Option.some.inj hthird
    rfl
  have hsame := (hdetached.1 Unit (bellRunner sturdy) (bellSession .idle) _
    (twin_bell brittle sturdy ready hprepare') 5).2
  rw [hexecute] at hsame
  exact ⟨ready, report, session, hexecute, rfl, rfl, hcalls ▸ hsettled, rfl, hsame.symm⟩

end Runner

end RigScript
