import RigScript.Proofs.Execution.Forward
import RigScript.Proofs.Runner.Stages

/-! ## The phases of an execution

Nothing is done with a plugin before everything that comes first has been done with all plugins:
they are configured, initialized, put to the checks of the parameters, and enabled, before the first
command is run. This holds of everything that is ever written, also while a program runs that never
ends, and also if the run stops before the program is executed. -/

namespace RigScript

variable {ω : Type}

/-! ### The order of phases -/

/-- Hooks of one phase only, and whatever is done to libraries. -/
def Uniform (phase : Phase) (events : List Event) : Prop :=
  ∀ e ∈ events, e.phase? = none ∨ e.phase? = some phase

theorem Uniform.of_phase {phase : Phase} {events : List Event}
    (h : ∀ e ∈ events, e.phase? = some phase) : Uniform phase events := fun e he => .inr (h e he)

theorem Uniform.phase?_ne {phase other : Phase} {events : List Event} {e : Event}
    (h : Uniform phase events) (hne : phase ≠ other) (he : e ∈ events) : e.phase? ≠ some other := by
  rcases h e he with hphase | hphase <;> simp [hphase, hne]

theorem Uniform.eq_of_mem {phase other : Phase} {events : List Event} (h : Uniform phase events)
    (hmem : other ∈ events.filterMap Event.phase?) : other = phase := by
  obtain ⟨e, he, hother⟩ := List.mem_filterMap.1 hmem
  by_contra hne
  exact h.phase?_ne (Ne.symm hne) he hother

/-- Where segments of one phase each follow each other in the order of the phases, the whole is in
the order of the phases. -/
theorem ordered_of_segments {segments : List (Phase × List Event)}
    (horder : (segments.map (·.1)).Pairwise (·.rank ≤ ·.rank))
    (huniform : ∀ segment ∈ segments, Uniform segment.1 segment.2) :
    ((segments.flatMap (·.2)).filterMap Event.phase?).Pairwise (·.rank ≤ ·.rank) := by
  induction segments with
  | nil => exact .nil
  | cons segment segments ih =>
      obtain ⟨hfirst, hrest⟩ := List.forall_mem_cons.1 huniform
      obtain ⟨hbefore, horder⟩ := List.pairwise_cons.1 horder
      rw [List.flatMap_cons, List.filterMap_append]
      refine List.pairwise_append.2 ⟨?_, ih horder hrest, ?_⟩
      · refine List.pairwise_of_forall_mem_list fun a ha b hb => ?_
        rw [hfirst.eq_of_mem ha, hfirst.eq_of_mem hb]
      · intro a ha b hb
        obtain ⟨e, he, hb⟩ := List.mem_filterMap.1 hb
        obtain ⟨later, hlater, he⟩ := List.mem_flatMap.1 he
        rw [hfirst.eq_of_mem ha, (hrest later hlater).eq_of_mem (List.mem_filterMap.2 ⟨e, he, hb⟩)]
        exact hbefore _ (List.mem_map_of_mem hlater)

namespace Event

/-- The plugin that is initialized. -/
def initialized? : Event → Option Identity
  | .initialized plugin => some plugin
  | _ => none

/-- The plugin that is enabled. -/
def enabled? : Event → Option Identity
  | .enabled plugin => some plugin
  | _ => none

theorem initialized?_eq_none {e : Event} (h : e.phase? ≠ some .initializing) :
    e.initialized? = none := by
  cases e with
  | initialized plugin => exact absurd rfl h
  | _ => rfl

theorem enabled?_eq_none {e : Event} (h : e.phase? ≠ some .enabling) : e.enabled? = none := by
  cases e with
  | enabled plugin => exact absurd rfl h
  | _ => rfl

end Event

theorem Uniform.filterMap_initialized? {phase : Phase} {events : List Event}
    (h : Uniform phase events) (hne : phase ≠ .initializing) :
    events.filterMap Event.initialized? = [] :=
  List.filterMap_eq_nil_iff.2 fun _ he => Event.initialized?_eq_none (h.phase?_ne hne he)

theorem Uniform.filterMap_enabled? {phase : Phase} {events : List Event}
    (h : Uniform phase events) (hne : phase ≠ .enabling) : events.filterMap Event.enabled? = [] :=
  List.filterMap_eq_nil_iff.2 fun _ he => Event.enabled?_eq_none (h.phase?_ne hne he)

theorem filterMap_initialized?_map (handles : List (Handle ω)) :
    (handles.map (.initialized ·.identity)).filterMap Event.initialized? =
      handles.map Handle.identity := by
  rw [List.filterMap_map]
  exact congrFun List.filterMap_eq_map handles

theorem filterMap_enabled?_map (handles : List (Handle ω)) :
    (handles.map (.enabled ·.identity)).filterMap Event.enabled? =
      handles.map Handle.identity := by
  rw [List.filterMap_map]
  exact congrFun List.filterMap_eq_map handles

theorem phase?_of_initialized {handles : List (Handle ω)} {e : Event}
    (he : e ∈ handles.map (.initialized ·.identity)) : e.phase? = some .initializing := by
  obtain ⟨h, -, rfl⟩ := List.mem_map.1 he
  rfl

theorem phase?_of_enabled {handles : List (Handle ω)} {e : Event}
    (he : e ∈ handles.map (.enabled ·.identity)) : e.phase? = some .enabling := by
  obtain ⟨h, -, rfl⟩ := List.mem_map.1 he
  rfl

/-! ### Up to the first failure -/

namespace Registry

end Registry

namespace Runner

variable {r : Runner ω} {p : Program} {session : Session ω} {registry : Registry ω}

/-! ### What can be observed -/

/-- What can be seen of an execution: how it ends, or where it is while its program runs. -/
inductive Observed (r : Runner ω) (p : Program) (session : Session ω) : Session ω → Prop where
  | ended {fuel : Nat} {result : Except RunError Report} {session' : Session ω}
      (h : r.execute p session fuel = some (result, session')) : Observed r p session session'
  | running {registry : Registry ω} {visits : List (Machine.Visit ω)} {place : Nat} {m : Machine ω}
      (hprepare : r.prepare p { session } = .ok () registry)
      (hpath : Machine.Path registry.handles r.settings.commandDelay
        { program := p, session := registry.session } visits place m) :
      Observed r p session m.session

/-- Hooks are called phase by phase. Plugins are initialized up to the first failure, and enabled
all together if everything before has succeeded; if not, no command is run. -/
structure InPhases (r : Runner ω) (p : Program) (session : Session ω) (hooks : List Event) :
    Prop where
  ordered : (hooks.filterMap Event.phase?).Pairwise (·.rank ≤ ·.rank)
  initialized : hooks.filterMap Event.initialized? = (r.initializes p session).map Handle.identity
  enabled : hooks.filterMap Event.enabled? = (r.enables p session).map Handle.identity
  quiet : ∀ e registry, r.checked p { session } = .error e registry →
    ∀ hook ∈ hooks, hook.phase? ≠ some .running

section Course

variable {fault loading checks enabling work later : List Event}

/-- Nothing but the work of the program runs commands. -/
theorem Course.mem_work
    (h : Course r p session registry fault loading checks
      ((r.enables p session).map (.enabled ·.identity)))
    (hlater : ∀ e ∈ later, e.phase? = none) {e : Event}
    (he : e ∈ loading ++ (r.initializes p session).map (.initialized ·.identity) ++
      checks ++ (r.enables p session).map (.enabled ·.identity) ++ work ++ later)
    (hrunning : e.phase? = some .running) : e ∈ work := by
  simp only [List.mem_append] at he
  rcases he with ((((he | he) | he) | he) | he) | he
  · rcases h.phases e he with hphase | hphase <;> simp [hphase] at hrunning
  · simp [phase?_of_initialized he] at hrunning
  · simp [h.checks e he] at hrunning
  · simp [phase?_of_enabled he] at hrunning
  · exact he
  · simp [hlater e he] at hrunning

/-- A course that goes on with the work of the program and the going of the plugins. -/
theorem Course.inPhases
    (h : Course r p session registry fault loading checks
      ((r.enables p session).map (.enabled ·.identity)))
    (hwork : ∀ e ∈ work, e.phase? = some .running) (hlater : ∀ e ∈ later, e.phase? = none)
    (hquiet : ∀ e registry, r.checked p { session } = .error e registry → work = []) :
    InPhases r p session (loading ++ (r.initializes p session).map (.initialized ·.identity) ++
      checks ++ (r.enables p session).map (.enabled ·.identity) ++ work ++ later) := by
  have hloading : Uniform .configuring loading := h.phases
  have hinits : Uniform .initializing
      ((r.initializes p session).map (.initialized ·.identity)) := .of_phase fun _ =>
    phase?_of_initialized
  have hchecks : Uniform .checking checks := .of_phase h.checks
  have henables : Uniform .enabling ((r.enables p session).map (.enabled ·.identity)) :=
    .of_phase fun _ => phase?_of_enabled
  have hwork : Uniform .running work := .of_phase hwork
  have hgoing : ∀ phase, Uniform phase later := fun _ e he => .inl (hlater e he)
  refine ⟨?_, ?_, ?_, ?_⟩
  · have huniform : ∀ segment ∈ [(Phase.configuring, loading),
        (.initializing, (r.initializes p session).map (.initialized ·.identity)),
        (.checking, checks), (.enabling, (r.enables p session).map (.enabled ·.identity)),
        (.running, work), (.running, later)], Uniform segment.1 segment.2 := by
      simp [hloading, hinits, hchecks, henables, hwork, hgoing]
    simpa using ordered_of_segments (by simp [Phase.rank]) huniform
  · simp only [List.filterMap_append, filterMap_initialized?_map,
      hloading.filterMap_initialized? (by simp), hchecks.filterMap_initialized? (by simp),
      henables.filterMap_initialized? (by simp), hwork.filterMap_initialized? (by simp),
      (hgoing .running).filterMap_initialized? (by simp), List.nil_append, List.append_nil]
  · simp only [List.filterMap_append, filterMap_enabled?_map,
      hloading.filterMap_enabled? (by simp), hinits.filterMap_enabled? (by simp),
      hchecks.filterMap_enabled? (by simp), hwork.filterMap_enabled? (by simp),
      (hgoing .running).filterMap_enabled? (by simp), List.nil_append, List.append_nil]
  · intro e registry hchecked hook hhook hrunning
    have hmem := h.mem_work hlater hhook hrunning
    rw [hquiet e registry hchecked] at hmem
    cases hmem

end Course

/-- Whatever is observed of an execution, its hooks are in phases. -/
theorem Observed.inPhases (hidle : session.pool.tasks = []) (hfull : r.validateOnly = false)
    {session' : Session ω} (h : Observed r p session session') :
    ∃ hooks, session'.trace = session.trace ++ hooks ∧ InPhases r p session hooks := by
  cases h with
  | ended hexecute =>
      obtain ⟨registry, fault, loading, checks, work, hcourse, htrace, hwork, -, hquiet, -⟩ :=
        execute_written hidle hfull hexecute
      have hgoing : ∀ e ∈ registry.handles.reverse.flatMap Handle.down, e.phase? = none :=
        fun e he => Handle.phase?_of_going he
      refine ⟨_, ?_, hcourse.inPhases hwork hgoing hquiet⟩
      rw [htrace, hcourse.adds.trace]
      simp only [List.append_assoc]
  | @running registry visits place m hprepare hpath =>
      obtain ⟨fault, loading, checks, hcourse⟩ := course_of_prepare hidle r p
      rw [hprepare] at hcourse
      obtain ⟨work, htrace, hworked⟩ :=
        hpath.working (Session.working_self (hcourse.idle hidle))
      have hquiet : ∀ e registry, r.checked p { session } = .error e registry → work = [] := by
        intro e registry₁ hchecked
        rw [prepare_eq, Action.bind_of_error hchecked] at hprepare
        cases hprepare
      have hnothing : ∀ e ∈ ([] : List Event), e.phase? = none := by simp
      refine ⟨_, ?_, hcourse.inPhases hworked.work hnothing hquiet⟩
      have hbefore := hcourse.adds.trace
      simp only [Action.state_ok] at hbefore
      rw [htrace, hbefore]
      simp only [List.append_assoc, List.append_nil]

end Runner

end RigScript
