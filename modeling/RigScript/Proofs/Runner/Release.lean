import RigScript.Proofs.Runner.Phases

/-! ## Release

Libraries are released whatever happens: each one that is opened is unloaded, and a plugin that was
constructed is destroyed just before that. This happens in the reverse of the order in which they
were opened, and only after all the work of the program is finished. -/

namespace RigScript

variable {ω : Type}

/-! ### What is opened and what is released -/

namespace Event

/-- The path of a library that is opened; where there is no library nothing is opened. -/
def opened? (source : LibrarySource ω) : Event → Option String
  | .opened path =>
    match source path with
    | .ok _ => some path
    | .error _ => none
  | _ => none

def unloaded? : Event → Option String
  | .unloaded path => some path
  | _ => none

/-- The plugin that a constructor has yielded. -/
def constructed? : Event → Option Identity
  | .constructed plugin => plugin
  | _ => none

def destroyed? : Event → Option Identity
  | .destroyed plugin => some plugin
  | _ => none

variable (e : Event) (phase : Phase)

theorem opened?_of_phase (source : LibrarySource ω) (e : Event) (phase : Phase)
    (h : e.phase? = some phase) : e.opened? source = none := by
  cases e with
  | opened path => cases h
  | _ => rfl

theorem unloaded?_of_phase (h : e.phase? = some phase) : e.unloaded? = none := by
  cases e with
  | unloaded path => cases h
  | _ => rfl

theorem constructed?_of_phase (h : e.phase? = some phase) : e.constructed? = none := by
  cases e with
  | constructed plugin => cases h
  | _ => rfl

theorem destroyed?_of_phase (h : e.phase? = some phase) : e.destroyed? = none := by
  cases e with
  | destroyed plugin => cases h
  | _ => rfl

end Event

/-- What is done to libraries is all there is to see of them. -/
theorem filterMap_libraryEvents {α : Type} {f : Event → Option α} {events : List Event}
    (hf : ∀ e phase, e.phase? = some phase → f e = none) :
    (libraryEvents events).filterMap f = events.filterMap f := by
  rw [libraryEvents, List.filterMap_filter]
  refine List.filterMap_congr fun e _ => ?_
  cases hphase : e.phase? with
  | none => rfl
  | some phase => simp [hf e phase hphase]

namespace Loader

variable {l : Loader ω} {events : List Event}

theorem filterMap_fruitless {α : Type} {f : Event → Option α}
    (hresolved : ∀ symbol, f (.resolved symbol) = none)
    (hconstructed : f (.constructed none) = none) (h : ∀ e ∈ events, Fruitless e) :
    events.filterMap f = [] := by
  refine List.filterMap_eq_nil_iff.2 fun e he => ?_
  rcases h e he with ⟨symbol, rfl⟩ | rfl
  · exact hresolved symbol
  · exact hconstructed

/-- Libraries that are opened are unloaded in the reverse order, each once. -/
theorem Nested.unloaded (h : Nested l events) :
    events.filterMap Event.unloaded? = (events.filterMap (Event.opened? l.source)).reverse := by
  induction h with
  | nothing => rfl
  | refused hsource => simp [List.filterMap_cons, Event.opened?, Event.unloaded?, hsource]
  | barren hsource htried =>
      have hunloaded := filterMap_fruitless (f := Event.unloaded?) (fun _ => rfl) rfl htried
      have hopened := filterMap_fruitless (f := Event.opened? l.source) (fun _ => rfl) rfl htried
      simp [List.filterMap_cons, Event.opened?, Event.unloaded?, hsource, hunloaded, hopened]
  | held hpath hsource hinner ih =>
      simp [List.filterMap_cons, Event.opened?, Event.unloaded?, hsource, ih]

/-- Plugins that are constructed are destroyed in the reverse order, each once, and no others. -/
theorem Nested.destroyed (h : Nested l events) :
    events.filterMap Event.destroyed? = (events.filterMap Event.constructed?).reverse := by
  induction h with
  | nothing => rfl
  | refused hsource => rfl
  | barren hsource htried =>
      have hdestroyed := filterMap_fruitless (f := Event.destroyed?) (fun _ => rfl) rfl htried
      have hconstructed := filterMap_fruitless (f := Event.constructed?) (fun _ => rfl) rfl htried
      simp [List.filterMap_cons, Event.constructed?, Event.destroyed?, hdestroyed, hconstructed]
  | held hpath hsource hinner ih =>
      simp [List.filterMap_cons, Event.constructed?, Event.destroyed?, ih]

theorem destroyed?_of_up {h : Handle ω} {e : Event} (he : e ∈ l.up h) : e.destroyed? = none := by
  rcases mem_up_cases he with ⟨path, rfl⟩ | ⟨symbol, rfl⟩ | rfl <;> rfl

end Loader

/-! ### Before and after -/

/-- Where nobody is destroyed before some place and nothing is run behind it, the work is done
before anybody is destroyed. -/
theorem between_of_append {events later before after : List Event} {plugin : Identity}
    (hevents : ∀ e ∈ events, e.destroyed? = none)
    (h : events ++ later = before ++ .destroyed plugin :: after) :
    ∃ between, before = events ++ between ∧ later = between ++ .destroyed plugin :: after := by
  rcases List.append_eq_append_iff.1 h with ⟨between, hbefore, hlater⟩ | ⟨rest, hevents', hrest⟩
  · exact ⟨between, hbefore, hlater⟩
  · cases rest with
    | nil => exact ⟨[], by simpa using hevents'.symm, by simpa using hrest.symm⟩
    | cons e rest =>
        obtain ⟨rfl, -⟩ := List.cons.inj hrest
        have hnone := hevents (.destroyed plugin) (by simp [hevents'])
        cases hnone

namespace Runner

variable {r : Runner ω} {p : Program} {session : Session ω} {registry : Registry ω}

/-- What was opened is released. Libraries are nested: each that is opened is unloaded once, those
opened last first, and a plugin that a constructor yields is destroyed once, just before its library
is unloaded. When a plugin is destroyed all work is finished, and no more follows. -/
structure Released (r : Runner ω) (hooks : List Event) : Prop where
  nested : r.loader.Nested (libraryEvents hooks)
  unloaded : hooks.filterMap Event.unloaded? = (hooks.filterMap (Event.opened? r.source)).reverse
  destroyed : hooks.filterMap Event.destroyed? = (hooks.filterMap Event.constructed?).reverse
  finished : ∀ before plugin after, hooks = before ++ .destroyed plugin :: after →
    (∀ e ∈ after, e.phase? ≠ some .running) ∧
    ∀ serial call, .started serial call ∈ before → ∃ outcome, .finished serial call outcome ∈ before

section Course

variable {fault loading checks work : List Event}

/-- Until the plugins go, libraries are opened for those in use, and one may have failed. -/
theorem Course.libraryEvents
    (h : Course r p session registry fault loading checks
      ((r.enables p session).map (.enabled ·.identity)))
    (hwork : ∀ e ∈ work, e.phase? = some .running) :
    RigScript.libraryEvents (loading ++ (r.initializes p session).map (.initialized ·.identity) ++
      checks ++ (r.enables p session).map (.enabled ·.identity) ++ work) =
      registry.handles.flatMap r.loader.up ++ fault := by
  simp only [libraryEvents_append, libraryEvents_eq_nil fun _ => phase?_of_initialized,
    libraryEvents_eq_nil fun _ => phase?_of_enabled, h.library, libraryEvents_eq_nil h.checks,
    libraryEvents_eq_nil hwork, List.append_nil]

/-- Unless the loading has failed, no plugin is destroyed until all of them go. -/
theorem Course.destroyed?_eq_none
    (h : Course r p session registry [] loading checks
      ((r.enables p session).map (.enabled ·.identity)))
    (hwork : ∀ e ∈ work, e.phase? = some .running) :
    ∀ e ∈ loading ++ (r.initializes p session).map (.initialized ·.identity) ++ checks ++
      (r.enables p session).map (.enabled ·.identity) ++ work, e.destroyed? = none := by
  have hup : (registry.handles.flatMap r.loader.up).filterMap Event.destroyed? = [] := by
    refine List.filterMap_eq_nil_iff.2 fun e he => ?_
    obtain ⟨g, -, hg⟩ := List.mem_flatMap.1 he
    exact Loader.destroyed?_of_up hg
  have hlibrary := congrArg (List.filterMap Event.destroyed?) (h.libraryEvents hwork)
  rw [filterMap_libraryEvents Event.destroyed?_of_phase, List.append_nil, hup] at hlibrary
  exact List.filterMap_eq_nil_iff.1 hlibrary

/-- When a plugin is destroyed the work of the program is behind it. -/
theorem Course.finished
    (h : Course r p session registry fault loading checks
      ((r.enables p session).map (.enabled ·.identity)))
    (hwork : ∀ e ∈ work, e.phase? = some .running)
    (hsettled : ∀ serial call, .started serial call ∈ work →
      ∃ outcome, .finished serial call outcome ∈ work)
    (hquiet : ∀ e registry, r.checked p { session } = .error e registry → work = [])
    {before after : List Event} {plugin : Identity}
    (hsplit : loading ++ (r.initializes p session).map (.initialized ·.identity) ++
      checks ++ (r.enables p session).map (.enabled ·.identity) ++ work ++
      registry.handles.reverse.flatMap Handle.down = before ++ .destroyed plugin :: after) :
    (∀ e ∈ after, e.phase? ≠ some .running) ∧
      ∀ serial call, .started serial call ∈ before →
        ∃ outcome, .finished serial call outcome ∈ before := by
  have hgoing : ∀ e ∈ registry.handles.reverse.flatMap Handle.down, e.phase? = none :=
    fun _ he => Handle.phase?_of_going he
  have hphases := h.inPhases hwork hgoing hquiet
  rw [hsplit] at hphases
  cases hchecked : r.checked p { session } with
  | error e registry₁ =>
      -- There is no work at all.
      have hnone := hphases.quiet e registry₁ hchecked
      refine ⟨fun e he => hnone e (by simp [he]), fun serial call hstarted => ?_⟩
      exact absurd rfl (hnone (.started serial call) (by simp [hstarted]))
  | ok _ registry₁ =>
      -- No library has failed, so nobody is destroyed until all plugins go.
      have hfault : fault = [] := by
        by_contra hne
        obtain ⟨e, registry₂, hcompared⟩ := h.failed hne
        rw [checked_of_compared hcompared] at hchecked
        cases hchecked
      subst hfault
      obtain ⟨between, rfl, hlater⟩ := between_of_append (h.destroyed?_eq_none hwork) hsplit
      refine ⟨fun e he => ?_, fun serial call hstarted => ?_⟩
      · rw [hgoing e (by simp [hlater, he])]
        simp
      · have hbetween : ∀ e ∈ between, e.phase? = none := fun e he =>
          hgoing e (by simp [hlater, he])
        obtain ⟨outcome, hmem⟩ := hsettled serial call (h.mem_work hbetween hstarted rfl)
        exact ⟨outcome, by simp [hmem]⟩

theorem Course.released
    (h : Course r p session registry fault loading checks
      ((r.enables p session).map (.enabled ·.identity)))
    (hwork : ∀ e ∈ work, e.phase? = some .running)
    (hsettled : ∀ serial call, .started serial call ∈ work →
      ∃ outcome, .finished serial call outcome ∈ work)
    (hquiet : ∀ e registry, r.checked p { session } = .error e registry → work = []) :
    Released r (loading ++ (r.initializes p session).map (.initialized ·.identity) ++
      checks ++ (r.enables p session).map (.enabled ·.identity) ++ work ++
      registry.handles.reverse.flatMap Handle.down) := by
  have hgoing : ∀ e ∈ registry.handles.reverse.flatMap Handle.down, e.phase? = none :=
    fun _ he => Handle.phase?_of_going he
  have hnested : r.loader.Nested (RigScript.libraryEvents
      (loading ++ (r.initializes p session).map (.initialized ·.identity) ++
        checks ++ (r.enables p session).map (.enabled ·.identity) ++ work ++
        registry.handles.reverse.flatMap Handle.down)) := by
    rw [libraryEvents_append, h.libraryEvents hwork, libraryEvents_eq_self hgoing]
    exact h.nested.aroundAll h.sourced
  have hunloaded := hnested.unloaded
  have hdestroyed := hnested.destroyed
  rw [filterMap_libraryEvents Event.unloaded?_of_phase,
    filterMap_libraryEvents (Event.opened?_of_phase _)] at hunloaded
  rw [filterMap_libraryEvents Event.destroyed?_of_phase,
    filterMap_libraryEvents Event.constructed?_of_phase] at hdestroyed
  exact ⟨hnested, hunloaded, hdestroyed, fun _ _ _ hsplit =>
    h.finished hwork hsettled hquiet hsplit⟩

end Course

/-- Whatever comes of an execution, everything that was opened is released. Each library that was
opened is unloaded once, in the reverse order, also when loading a later one fails or the program
stops; a plugin is destroyed just before its library is unloaded, if there was a plugin, and not
before all commands, detached ones too, are finished. No task is left. -/
theorem released_of_execute (r : Runner ω) (p : Program) {session : Session ω}
    (hidle : session.pool.tasks = []) {fuel : Nat} {result : Except RunError Report}
    {session' : Session ω} (h : r.execute p session fuel = some (result, session')) :
    ∃ hooks, session'.trace = session.trace ++ hooks ∧ Released r hooks ∧
      session'.pool.tasks = [] := by
  cases hfull : r.validateOnly with
  | true =>
      rw [execute, hfull] at h
      cases h
      have hreleased : Released r [] := ⟨.nothing, rfl, rfl, by simp⟩
      exact ⟨[], (List.append_nil _).symm, hreleased, hidle⟩
  | false =>
      obtain ⟨registry, fault, loading, checks, work, hcourse, htrace, hwork, hsettled, hquiet,
        hempty⟩ := execute_written hidle hfull h
      refine ⟨_, ?_, hcourse.released hwork hsettled hquiet, hempty⟩
      rw [htrace, hcourse.adds.trace]
      simp only [List.append_assoc]

/-- A program with two plugins, of which the second has a library that yields none. -/
def halfProgram : Program where
  required := [⟨"RIG", none, 1⟩, ⟨"ARM", none, 2⟩]

def halfRunner : Runner Bool where
  source := fun path => .ok
    { constructor? := fun _ => some (pure
        (if path = "plugins/librig_plugin.so" then some Machine.finderPlugin else none))
      destructor? := fun _ => some (pure ()) }

/-- The second library is unloaded at once, and then the first one. -/
def halfHooks : List Event :=
  [.opened "plugins/librig_plugin.so", .resolved "uscript_plugin_entry",
    .resolved "uscript_plugin_exit", .constructed (some ⟨"RIG", "Finder"⟩),
    .opened "plugins/libarm_plugin.so", .resolved "uscript_plugin_entry",
    .resolved "uscript_plugin_exit", .constructed none, .unloaded "plugins/libarm_plugin.so",
    .destroyed ⟨"RIG", "Finder"⟩, .unloaded "plugins/librig_plugin.so"]

theorem released_of_execute_half : Released halfRunner halfHooks := by
  have htrace : (halfRunner.execute halfProgram { world := false } 1).map (·.2.trace) =
      some halfHooks := by decide +kernel
  obtain ⟨⟨result, session'⟩, hexecute, htrace⟩ := Option.map_eq_some_iff.1 htrace
  have hidle : ({ world := false } : Session Bool).pool.tasks = [] := rfl
  obtain ⟨hooks, hhooks, hreleased, -⟩ :=
    released_of_execute halfRunner halfProgram hidle hexecute
  have heq : hooks = halfHooks := hhooks.symm.trans htrace
  exact heq ▸ hreleased

end Runner

end RigScript
