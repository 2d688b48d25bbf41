import RigScript.Proofs.Execution.Path
import RigScript.Proofs.Plugin.Bringing
import RigScript.Proofs.Plugin.Registering
import RigScript.Runner

/-! ## The stages of a run

Before a program is executed its plugins are registered and loaded, compared with the program and
initialized; then the parameters of the program are checked, and the plugins are enabled. This file
follows what is written from stage to stage. Whatever the stage that fails, those before it have
written what they always write, and those behind it nothing. -/

namespace RigScript

variable {ω : Type}

namespace Runner

variable {r : Runner ω} {p : Program} {session : Session ω} {registry : Registry ω}
  {events : List Event}

/-! ### Plugins that are built in -/

/-- As long as plugins that are built in are registered no library is open. -/
structure OnlyBuiltIn (session : Session ω) (registry : Registry ω) (events : List Event) :
    Prop where
  adds : Session.Adds session events registry.session
  configured : ∀ e ∈ events, e.phase? = some .configuring
  builtIn : ∀ h ∈ registry.handles, h.origin = none
  distinct : registry.names.Nodup

theorem OnlyBuiltIn.loading (h : OnlyBuiltIn session registry events) (l : Loader ω) :
    l.Loading session registry [] events where
  adds := h.adds
  phases := fun e he => .inr (h.configured e he)
  library := by
    have hnone : registry.handles.flatMap l.up = [] :=
      List.flatMap_eq_nil_iff.2 fun g hg => by rw [Loader.up, h.builtIn g hg]
    rw [libraryEvents_eq_nil h.configured, hnone, List.append_nil]
  nested := .nothing
  sourced := by
    intro g hg origin horigin
    rw [h.builtIn g hg] at horigin
    cases horigin
  distinct := h.distinct

/-- Another plugin is registered; one that it replaces has nothing to be released. -/
theorem OnlyBuiltIn.coming (hidle : session.pool.tasks = [])
    (h : OnlyBuiltIn session registry events) {g : Handle ω} (horigin : g.origin = none)
    (next : Registering LoadError ω Unit) :
    ∃ registry₁, OnlyBuiltIn session registry₁ events ∧
      (do
        let replaced ← modifyGet (·.insert g)
        if let some f := replaced then modify (·.onSession f.release)
        next : Registering LoadError ω Unit) registry = next registry₁ := by
  have hinserted := registry.insert_inserted g
  have hdistinct := hinserted.keepsNames.distinct h.distinct
  have hcome : (modifyGet (·.insert g) : Registering LoadError ω (Option (Handle ω))) registry =
      .ok (registry.insert g).1 (registry.insert g).2 := rfl
  rw [Action.bind_of_ok hcome]
  generalize registry.insert g = inserted at hinserted hdistinct ⊢
  have hbuiltIn := h.builtIn
  cases hinserted with
  | last hnew =>
      refine ⟨{ registry with handles := registry.handles ++ [g] },
        ⟨h.adds, h.configured, ?_, hdistinct⟩, rfl⟩
      exact List.forall_mem_append.2 ⟨hbuiltIn, List.forall_mem_singleton.2 horigin⟩
  | @replacing before after f hhandles hname =>
      rw [hhandles, List.forall_mem_append, List.forall_mem_cons] at hbuiltIn
      obtain ⟨hbefore, hf, hafter⟩ := hbuiltIn
      -- No task was handed out yet, so nobody is waited for, and what is replaced has no library.
      have hjoin := Session.Adds.join (s := registry.session) (by rw [h.adds.pool, hidle]) g.name
      have hadds := h.adds.trans hjoin
      rw [List.append_nil, ← f.release_of_builtIn hf (registry.session.join g.name)] at hadds
      refine ⟨{ handles := before ++ g :: after,
                session := f.release (registry.session.join g.name) },
        ⟨hadds, h.configured, ?_, hdistinct⟩, rfl⟩
      exact List.forall_mem_append.2 ⟨hbefore, List.forall_mem_cons.2 ⟨horigin, hafter⟩⟩

theorem OnlyBuiltIn.configuring (h : OnlyBuiltIn session registry events) {g : Handle ω}
    {overrides : Option Overrides} {s₁ : Session ω}
    (hadds : Session.Adds registry.session (g.configuration overrides) s₁) :
    OnlyBuiltIn session { registry with session := s₁ } (events ++ g.configuration overrides) where
  adds := h.adds.trans hadds
  configured := fun _ he =>
    (List.mem_append.1 he).elim (h.configured _) Handle.phase?_of_configuration
  builtIn := h.builtIn
  distinct := h.distinct

theorem OnlyBuiltIn.register (hidle : session.pool.tasks = [])
    (builtIns : List (String × Plugin ω)) (h : OnlyBuiltIn session registry events) :
    ∃ all, OnlyBuiltIn session (Action.state (r.register builtIns registry)) all := by
  induction builtIns generalizing registry events with
  | nil => exact ⟨events, h⟩
  | cons builtIn builtIns ih =>
      obtain ⟨name, plugin⟩ := builtIn
      have hprepared := Handle.prepare_prepared { name, plugin } (r.settings.overrides? name)
        registry.session
      cases hbuilt : Handle.builtIn name plugin (r.settings.overrides? name) registry.session with
      | error e s₁ =>
          rw [← Handle.builtIn, hbuilt] at hprepared
          cases hprepared with
          | failed hadds =>
              rw [Runner.register,
                Action.bind_of_error (Registry.lift_eq_error_iff.2 ⟨s₁, hbuilt, rfl⟩)]
              exact ⟨_, h.configuring hadds⟩
      | ok g s₁ =>
          rw [← Handle.builtIn, hbuilt] at hprepared
          cases hprepared with
          | prepared hsame hadds =>
              obtain ⟨registry₁, hcame, hnext⟩ :=
                (h.configuring hadds).coming hidle hsame.origin (r.register builtIns)
              have hregister : r.register ((name, plugin) :: builtIns) registry =
                  r.register builtIns registry₁ := by
                rw [Runner.register,
                  Action.bind_of_ok (Registry.lift_eq_ok_iff.2 ⟨s₁, hbuilt, rfl⟩)]
                exact hnext
              rw [hregister]
              exact ih hcame

/-! ### The stages one after the other -/

/-- Registering and loading the plugins, and comparing them with the program. -/
def compared (r : Runner ω) (p : Program) : Registering LoadError ω Unit := do
  r.register r.builtIns
  Registry.loadProgram p r.loader r.settings.overrides?
  Registry.crossCheck p

/-- Everything before the plugins are enabled. -/
def checked (r : Runner ω) (p : Program) : Registering RunError ω Unit := do
  EStateM.adaptExcept .load (r.bringUp p)
  let handles := (← get).handles
  let _ ← EStateM.adaptExcept .exec (Registry.lift (Execution.dryRun handles p))

theorem bringUp_eq (r : Runner ω) (p : Program) :
    r.bringUp p = r.compared p >>= fun _ => Registry.initAll := by
  simp only [bringUp, compared, bind_assoc]

theorem prepare_eq (r : Runner ω) (p : Program) :
    r.prepare p = r.checked p >>= fun _ => Registry.enableAll := by
  simp only [prepare, checked, bind_assoc, pure_bind]

theorem loadingEnds_crossCheck {l : Loader ω} (p : Program)
    (h : l.Loading session registry [] events) :
    l.LoadingEnds session (Registry.crossCheck p registry) := by
  obtain ⟨hhandles, hadds⟩ := Registry.crossCheck_state p registry
  have hadds := h.adds.trans hadds
  rw [List.append_nil] at hadds
  have hkept : l.Loading session (Action.state (Registry.crossCheck p registry)) [] events := by
    generalize Action.state (Registry.crossCheck p registry) = registry₁ at hhandles hadds
    obtain ⟨handles, session₁⟩ := registry₁
    subst hhandles
    exact ⟨hadds, h.phases, h.library, h.nested, h.sourced, h.distinct⟩
  exact .of_state hkept

theorem loadingEnds_compared (hidle : session.pool.tasks = []) (r : Runner ω) (p : Program) :
    r.loader.LoadingEnds session (r.compared p { session }) := by
  have hstart : OnlyBuiltIn session { session } [] :=
    ⟨.refl session, by simp, by simp, List.nodup_nil⟩
  obtain ⟨events, hregistered⟩ := hstart.register (r := r) hidle r.builtIns
  have hends : r.loader.LoadingEnds session (r.register r.builtIns { session }) :=
    .of_state (hregistered.loading r.loader)
  refine hends.bind fun registry₁ _ h₁ => ?_
  exact (h₁.requireAll r.settings.overrides? p.required).bind fun _ _ h₂ =>
    loadingEnds_crossCheck p h₂

theorem checked_of_compared {e : LoadError} (h : r.compared p { session } = .error e registry) :
    r.checked p { session } = .error (.load e) registry := by
  have hup : r.bringUp p { session } = .error e registry := by
    rw [bringUp_eq, Action.bind_of_error h]
  rw [checked, Action.bind_of_error (Action.adaptExcept_of_error hup)]

/-- How everything before the enabling ends. -/
inductive Checked (r : Runner ω) (p : Program) (session : Session ω) :
    EStateM.Result RunError (Registry ω) Unit → Prop where
  | unloaded {e : LoadError} {registry : Registry ω}
      (hcompared : r.compared p { session } = .error e registry) :
      Checked r p session (.error (.load e) registry)
  | uninitialized {registry registry₁ : Registry ω} {e : LoadError}
      (hcompared : r.compared p { session } = .ok () registry)
      (hinit : Registry.initAll registry = .error e registry₁) :
      Checked r p session (.error (.load e) registry₁)
  | rejected {registry registry₁ : Registry ω} {e : ExecError} {session₁ : Session ω}
      (hcompared : r.compared p { session } = .ok () registry)
      (hinit : Registry.initAll registry = .ok () registry₁)
      (hdry : Execution.dryRun registry₁.handles p registry₁.session = .error e session₁) :
      Checked r p session (.error (.exec e) { registry₁ with session := session₁ })
  | checked {registry registry₁ : Registry ω} {n : Nat} {session₁ : Session ω}
      (hcompared : r.compared p { session } = .ok () registry)
      (hinit : Registry.initAll registry = .ok () registry₁)
      (hdry : Execution.dryRun registry₁.handles p registry₁.session = .ok n session₁) :
      Checked r p session (.ok () { registry₁ with session := session₁ })

theorem checked_checked (r : Runner ω) (p : Program) (session : Session ω) :
    Checked r p session (r.checked p { session }) := by
  cases hcompared : r.compared p { session } with
  | error e registry =>
      rw [checked_of_compared hcompared]
      exact .unloaded hcompared
  | ok _ registry =>
      unfold checked
      cases hinit : Registry.initAll registry with
      | error e registry₁ =>
          have hup : r.bringUp p { session } = .error e registry₁ := by
            rw [bringUp_eq, Action.bind_of_ok hcompared, hinit]
          rw [Action.bind_of_error (Action.adaptExcept_of_error hup)]
          exact .uninitialized hcompared hinit
      | ok _ registry₁ =>
          have hup : r.bringUp p { session } = .ok () registry₁ := by
            rw [bringUp_eq, Action.bind_of_ok hcompared, hinit]
          rw [Action.bind_of_ok (Action.adaptExcept_of_ok hup), Action.get_bind]
          cases hdry : Execution.dryRun registry₁.handles p registry₁.session with
          | error e session₁ =>
              rw [Action.bind_of_error (Action.adaptExcept_of_error
                (Registry.lift_eq_error_iff.2 ⟨session₁, hdry, rfl⟩))]
              exact .rejected hcompared hinit hdry
          | ok n session₁ =>
              rw [Action.bind_of_ok (Action.adaptExcept_of_ok
                (Registry.lift_eq_ok_iff.2 ⟨session₁, hdry, rfl⟩))]
              exact .checked hcompared hinit hdry

/-- The plugins that are initialized: none if they cannot all be loaded or do not fit the program,
and no plugin after one that fails. -/
def initializes (r : Runner ω) (p : Program) (session : Session ω) : List (Handle ω) :=
  match r.compared p { session } with
  | .ok _ registry => Registry.tried registry.handles registry.session
  | .error _ _ => []

/-- The plugins that are enabled: all of them, if everything before has succeeded. -/
def enables (r : Runner ω) (p : Program) (session : Session ω) : List (Handle ω) :=
  match r.checked p { session } with
  | .ok _ registry => registry.handles
  | .error _ _ => []

/-- What has been written by the time the plugins are enabled, or by the time a stage before it has
failed; `fault` is there only if the loading has failed. -/
structure Course (r : Runner ω) (p : Program) (session : Session ω) (registry : Registry ω)
    (fault loading checks enabling : List Event) : Prop where
  adds : Session.Adds session
    (loading ++ (r.initializes p session).map (.initialized ·.identity) ++ checks ++ enabling)
    registry.session
  phases : ∀ e ∈ loading, e.phase? = none ∨ e.phase? = some .configuring
  library : libraryEvents loading = registry.handles.flatMap r.loader.up ++ fault
  nested : r.loader.Nested fault
  failed : fault ≠ [] → ∃ e registry, r.compared p { session } = .error e registry
  sourced : ∀ h ∈ registry.handles, r.loader.Sourced h
  checks : ∀ e ∈ checks, e.phase? = some .checking

section Course

variable {fault loading checks : List Event}

/-- What is known of the plugins once they are loaded, goes on until they are enabled. -/
theorem course_of_loading (h : r.loader.Loading session registry fault loading)
    {registry₁ : Registry ω} (hhandles : registry₁.handles = registry.handles)
    (hadds : Session.Adds registry.session
      ((r.initializes p session).map (.initialized ·.identity) ++ checks) registry₁.session)
    (hfailed : fault ≠ [] → ∃ e registry, r.compared p { session } = .error e registry)
    (hchecks : ∀ e ∈ checks, e.phase? = some .checking) :
    Course r p session registry₁ fault loading checks [] where
  adds := by simpa using h.adds.trans hadds
  phases := h.phases
  library := by rw [hhandles, h.library]
  nested := h.nested
  failed := hfailed
  sourced := by
    rw [hhandles]
    exact h.sourced
  checks := hchecks

theorem Checked.course (hidle : session.pool.tasks = [])
    {result : EStateM.Result RunError (Registry ω) Unit} (h : Checked r p session result) :
    ∃ fault loading checks, Course r p session (Action.state result) fault loading checks [] := by
  have hcompared := loadingEnds_compared hidle r p
  -- If the plugins are loaded, initializing them comes next, however far it gets.
  have hinits : ∀ registry, r.compared p { session } = .ok () registry →
      (Action.state (Registry.initAll registry)).handles = registry.handles ∧
      Session.Adds registry.session ((r.initializes p session).map (.initialized ·.identity))
        (Action.state (Registry.initAll registry)).session := by
    intro registry hok
    rw [initializes, hok]
    exact Registry.initAll_state registry
  cases h with
  | unloaded herror =>
      rw [herror] at hcompared
      cases hcompared with
      | @error _ fault events _ hloading =>
          refine ⟨fault, events, [], course_of_loading hloading rfl ?_ (fun _ => ⟨_, _, herror⟩)
            (by simp)⟩
          simpa [initializes, herror] using Session.Adds.refl _
  | @uninitialized registry registry₁ e hok hinit =>
      obtain ⟨hhandles, hadds⟩ := hinits registry hok
      rw [hok] at hcompared
      rw [hinit] at hhandles hadds
      cases hcompared with
      | @ok _ events hloading =>
          refine ⟨[], events, [], course_of_loading hloading hhandles ?_ (by simp) (by simp)⟩
          simpa using hadds
  | @rejected registry registry₁ e session₁ hok hinit hdry =>
      obtain ⟨hhandles, hadds⟩ := hinits registry hok
      obtain ⟨checks, hchecked, hchecks⟩ :=
        Execution.adds_dryRun registry₁.handles p registry₁.session
      rw [hok] at hcompared
      rw [hinit] at hhandles hadds
      rw [hdry] at hchecked
      cases hcompared with
      | @ok _ events hloading =>
          exact ⟨[], events, checks,
            course_of_loading hloading hhandles (hadds.trans hchecked) (by simp) hchecks⟩
  | @checked registry registry₁ n session₁ hok hinit hdry =>
      obtain ⟨hhandles, hadds⟩ := hinits registry hok
      obtain ⟨checks, hchecked, hchecks⟩ :=
        Execution.adds_dryRun registry₁.handles p registry₁.session
      rw [hok] at hcompared
      rw [hinit] at hhandles hadds
      rw [hdry] at hchecked
      cases hcompared with
      | @ok _ events hloading =>
          exact ⟨[], events, checks,
            course_of_loading hloading hhandles (hadds.trans hchecked) (by simp) hchecks⟩

/-- Until then no task has been handed out. -/
theorem Course.idle {enabling : List Event} (hidle : session.pool.tasks = [])
    (h : Course r p session registry fault loading checks enabling) :
    registry.session.pool.tasks = [] := by
  rw [h.adds.pool, hidle]

/-- Of the plugins that are enabled no library is opened or given up. -/
theorem Course.enabling (h : Course r p session registry fault loading checks [])
    {registry₁ : Registry ω} (hreadied : Registry.Readied registry.handles registry₁.handles)
    (hadds : Session.Adds registry.session (registry.handles.map (.enabled ·.identity))
      registry₁.session) :
    Course r p session registry₁ fault loading checks
      (registry.handles.map (.enabled ·.identity)) where
  adds := by simpa using h.adds.trans hadds
  phases := h.phases
  library := by
    have hup : registry₁.handles.map r.loader.up = registry.handles.map r.loader.up :=
      hreadied.map_eq fun _ _ => rfl
    rw [h.library, List.flatMap_def, List.flatMap_def, hup]
  nested := h.nested
  failed := h.failed
  sourced := by
    intro g hg
    -- Where a plugin comes from has nothing to do with its readiness.
    have hsourced :
        registry₁.handles.map r.loader.Sourced = registry.handles.map r.loader.Sourced :=
      hreadied.map_eq fun _ _ => rfl
    have hmem : r.loader.Sourced g ∈ registry.handles.map r.loader.Sourced :=
      hsourced ▸ List.mem_map_of_mem hg
    obtain ⟨g', hg', heq⟩ := List.mem_map.1 hmem
    exact heq ▸ h.sourced g' hg'
  checks := h.checks

/-- Preparing a run fails just where a stage before the enabling does. -/
theorem prepare_cases (r : Runner ω) (p : Program) (session : Session ω) :
    (∃ e registry, r.checked p { session } = .error e registry ∧
      r.prepare p { session } = .error e registry) ∨
    ∃ registry registry₁, r.checked p { session } = .ok () registry ∧
      r.prepare p { session } = .ok () registry₁ ∧
      Registry.Readied registry.handles registry₁.handles ∧
      Session.Adds registry.session (registry.handles.map (.enabled ·.identity))
        registry₁.session := by
  cases hchecked : r.checked p { session } with
  | error e registry =>
      refine .inl ⟨e, registry, rfl, ?_⟩
      rw [prepare_eq, Action.bind_of_error hchecked]
  | ok _ registry =>
      obtain ⟨registry₁, henable, hreadied, hadds⟩ := Registry.enableAll_ok (ε := RunError) registry
      refine .inr ⟨registry, registry₁, rfl, ?_, hreadied, hadds⟩
      rw [prepare_eq, Action.bind_of_ok hchecked, henable]

theorem course_of_prepare (hidle : session.pool.tasks = []) (r : Runner ω) (p : Program) :
    ∃ fault loading checks, Course r p session (Action.state (r.prepare p { session })) fault
      loading checks ((r.enables p session).map (.enabled ·.identity)) := by
  obtain ⟨fault, loading, checks, hcourse⟩ := (checked_checked r p session).course hidle
  refine ⟨fault, loading, checks, ?_⟩
  rcases prepare_cases r p session with
    ⟨e, registry, hchecked, hprepare⟩ | ⟨registry, registry₁, hchecked, hprepare, hreadied, hadds⟩
  · rw [hchecked] at hcourse
    rw [hprepare]
    simpa [enables, hchecked] using hcourse
  · rw [hchecked] at hcourse
    rw [hprepare, enables, hchecked]
    exact hcourse.enabling hreadied hadds

end Course

/-! ### The end of a run -/

/-- In the end everybody is waited for, and then the plugins go. -/
theorem adds_conclude (registry : Registry ω) (ending : Machine.Ending) :
    Session.Adds registry.session.joinAll (registry.handles.reverse.flatMap Handle.down)
      (conclude registry ending).2 := by
  have hidle : (registry.onSession (·.joinAll)).session.pool.tasks = [] :=
    registry.session.joinAll_tasks
  have hreleased := Registry.adds_releaseAll hidle
  unfold conclude
  cases ending with
  | error e => exact hreleased
  | ok stats =>
      dsimp only
      split
      · exact hreleased
      · exact hreleased.note _ _

/-- How an execution ends that is not for validation only. -/
theorem execute_cases (hfull : r.validateOnly = false) {fuel : Nat}
    {result : Except RunError Report} {session' : Session ω}
    (h : r.execute p session fuel = some (result, session')) :
    (∃ e registry, r.prepare p { session } = .error e registry ∧ session' = registry.releaseAll) ∨
    ∃ registry visits ending m, r.prepare p { session } = .ok () registry ∧
      Machine.Ends registry.handles r.settings.commandDelay
        { program := p, session := registry.session } visits ending m ∧
      Session.Adds m.session.joinAll (registry.handles.reverse.flatMap Handle.down) session' := by
  unfold execute at h
  simp only [hfull, Bool.false_eq_true, if_false] at h
  cases hprepare : r.prepare p { session } with
  | error e registry =>
      simp only [hprepare] at h
      cases h
      exact .inl ⟨e, registry, rfl, rfl⟩
  | ok _ registry =>
      simp only [hprepare] at h
      obtain ⟨⟨ending, m⟩, hrun, hconclude⟩ := Option.bind_eq_some_iff.1 h
      have hsession : (conclude { registry with session := m.session } ending).2 = session' :=
        congrArg Prod.snd (Option.some.inj hconclude)
      obtain ⟨visits, hends⟩ := Machine.ends_of_run hrun
      have hadds := adds_conclude { registry with session := m.session } ending
      rw [hsession] at hadds
      exact .inr ⟨registry, visits, ending, m, rfl, hends, hadds⟩

/-- An execution that has ended has written what its course says, then the work of the program, of
which nothing is left unfinished, and then what the plugins write when they go. There is no work
unless everything before has succeeded. -/
theorem execute_written (hidle : session.pool.tasks = []) (hfull : r.validateOnly = false)
    {fuel : Nat} {result : Except RunError Report} {session' : Session ω}
    (h : r.execute p session fuel = some (result, session')) :
    ∃ registry fault loading checks work,
      Course r p session registry fault loading checks
        ((r.enables p session).map (.enabled ·.identity)) ∧
      session'.trace =
        registry.session.trace ++ work ++ registry.handles.reverse.flatMap Handle.down ∧
      (∀ e ∈ work, e.phase? = some .running) ∧
      (∀ serial call, .started serial call ∈ work →
        ∃ outcome, .finished serial call outcome ∈ work) ∧
      (∀ e registry, r.checked p { session } = .error e registry → work = []) ∧
      session'.pool.tasks = [] := by
  obtain ⟨fault, loading, checks, hcourse⟩ := course_of_prepare hidle r p
  rcases execute_cases hfull h with
    ⟨e, registry, hprepare, rfl⟩ | ⟨registry, visits, ending, m, hprepare, hends, hreleased⟩
  · rw [hprepare] at hcourse
    have hempty : registry.session.pool.tasks = [] := Course.idle hidle hcourse
    have hreleased := Registry.adds_releaseAll hempty
    refine ⟨registry, fault, loading, checks, [], hcourse, ?_, by simp, by simp, by simp, ?_⟩
    · simpa using hreleased.trace
    · rw [hreleased.pool, hempty]
  · rw [hprepare] at hcourse
    have hempty : registry.session.pool.tasks = [] := Course.idle hidle hcourse
    have hworking : Session.Working registry.session.trace m.session :=
      hends.working (Session.working_self hempty)
    obtain ⟨work, htrace, hwork, hfinished⟩ := hworking.finished_of_joinAll
    refine ⟨registry, fault, loading, checks, work, hcourse, ?_, hwork, hfinished, ?_, ?_⟩
    · rw [hreleased.trace, htrace]
    · intro e registry₁ hchecked
      rw [prepare_eq, Action.bind_of_error hchecked] at hprepare
      cases hprepare
    · rw [hreleased.pool, Session.joinAll_tasks]

end Runner

end RigScript
