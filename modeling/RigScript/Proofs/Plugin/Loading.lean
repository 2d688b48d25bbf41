import Mathlib.Data.List.Nodup
import RigScript.Proofs.Plugin.Lifecycle

/-! ## Loading plugins one after the other

What is done to libraries is nested: a library that is opened later is unloaded earlier. While
plugins are loaded their libraries stay open, one for each plugin in use that came from a library,
and a library that yields no plugin is unloaded before anything else happens. -/

namespace RigScript

variable {ω : Type}

/-! ### What is done to libraries -/

/-- The events that tell what was done to libraries. -/
def libraryEvents (events : List Event) : List Event := events.filter (·.phase?.isNone)

@[simp] theorem libraryEvents_append (events events' : List Event) :
    libraryEvents (events ++ events') = libraryEvents events ++ libraryEvents events' :=
  List.filter_append ..

theorem libraryEvents_eq_self {events : List Event} (h : ∀ e ∈ events, e.phase? = none) :
    libraryEvents events = events :=
  List.filter_eq_self.2 fun e he => by simp [h e he]

/-- Where hooks of one phase are called, nothing is done to libraries. -/
theorem libraryEvents_eq_nil {events : List Event} {phase : Phase}
    (h : ∀ e ∈ events, e.phase? = some phase) : libraryEvents events = [] :=
  List.filter_eq_nil_iff.2 fun e he => by simp [h e he]

namespace Handle

theorem phase?_of_down {h : Handle ω} {e : Event} (he : e ∈ h.down) : e.phase? = none := by
  unfold down at he
  cases horigin : h.origin with
  | none => simp [horigin] at he
  | some origin =>
      simp only [horigin, List.mem_cons, List.not_mem_nil, or_false] at he
      rcases he with rfl | rfl <;> rfl

theorem phase?_of_going {handles : List (Handle ω)} {e : Event}
    (he : e ∈ handles.flatMap down) : e.phase? = none := by
  obtain ⟨h, -, hdown⟩ := List.mem_flatMap.1 he
  exact phase?_of_down hdown

end Handle

namespace Loader

variable {l : Loader ω} {s s₁ : Session ω} {registry : Registry ω} {fault events more : List Event}

/-- A plugin comes by opening, searching and constructing. -/
theorem mem_up_cases {h : Handle ω} {e : Event} (he : e ∈ l.up h) :
    (∃ path, e = .opened path) ∨ (∃ symbol, e = .resolved symbol) ∨
      e = .constructed (some h.identity) := by
  unfold up at he
  cases horigin : h.origin with
  | none => simp [horigin] at he
  | some origin =>
      simp only [horigin, List.mem_cons, List.not_mem_nil, or_false] at he
      rcases he with rfl | rfl | rfl | rfl
      · exact .inl ⟨_, rfl⟩
      · exact .inr (.inl ⟨_, rfl⟩)
      · exact .inr (.inl ⟨_, rfl⟩)
      · exact .inr (.inr rfl)

theorem phase?_of_up {h : Handle ω} {e : Event} (he : e ∈ l.up h) : e.phase? = none := by
  rcases mem_up_cases he with ⟨path, rfl⟩ | ⟨symbol, rfl⟩ | rfl <;> rfl

theorem phase?_of_fruitless {e : Event} (h : Fruitless e) : e.phase? = none := by
  rcases h with ⟨symbol, rfl⟩ | rfl <;> rfl

/-- What is done to libraries one inside the other. A library that is opened is unloaded after all
those that are opened later; if its constructor yields a plugin this is destroyed just before, and
if not nothing is done in between but a fruitless search. -/
inductive Nested (l : Loader ω) : List Event → Prop where
  | nothing : Nested l []
  | refused {path reason : String} (hsource : l.source path = .error reason) :
      Nested l [.opened path]
  | barren {path : String} {library : Library ω} {tried : List Event}
      (hsource : l.source path = .ok library) (htried : ∀ e ∈ tried, Fruitless e) :
      Nested l (.opened path :: (tried ++ [.unloaded path]))
  | held {path : String} {library : Library ω} {plugin : Identity} {inner : List Event}
      (hpath : path = l.settings.path plugin.name) (hsource : l.source path = .ok library)
      (hinner : Nested l inner) :
      Nested l ([.opened path, .resolved l.settings.entryPoint, .resolved l.settings.exitPoint,
        .constructed (some plugin)] ++ inner ++ [.destroyed plugin, .unloaded path])

/-- Around anything nested a plugin may come and go. -/
theorem Nested.around (hinner : Nested l events) {h : Handle ω} (hsourced : l.Sourced h) :
    Nested l (l.up h ++ events ++ h.down) := by
  unfold up Handle.down
  cases horigin : h.origin with
  | none => simpa using hinner
  | some origin =>
      obtain ⟨hpath, library, hsource⟩ := hsourced origin horigin
      exact .held hpath hsource hinner

/-- Plugins that come in a row and go in the reverse order. -/
theorem Nested.aroundAll (hinner : Nested l events) {handles : List (Handle ω)}
    (hsourced : ∀ h ∈ handles, l.Sourced h) :
    Nested l (handles.flatMap l.up ++ events ++ handles.reverse.flatMap Handle.down) := by
  induction handles with
  | nil => simpa using hinner
  | cons h handles ih =>
      have hrest := ih fun g hg => hsourced g (List.mem_cons_of_mem _ hg)
      simpa [List.flatMap_append] using hrest.around (hsourced h List.mem_cons_self)

/-! ### Plugins in use -/

/-- What has been written while plugins were loaded. The libraries that are open are those of the
plugins in use; `fault` tells of the one that failed, if there is one. -/
structure Loading (l : Loader ω) (s : Session ω) (registry : Registry ω)
    (fault events : List Event) : Prop where
  adds : Session.Adds s events registry.session
  phases : ∀ e ∈ events, e.phase? = none ∨ e.phase? = some .configuring
  library : libraryEvents events = registry.handles.flatMap l.up ++ fault
  nested : Nested l fault
  sourced : ∀ h ∈ registry.handles, l.Sourced h
  distinct : registry.names.Nodup

/-- How the loading of plugins ends. -/
inductive LoadingEnds (l : Loader ω) (s : Session ω) :
    EStateM.Result LoadError (Registry ω) Unit → Prop where
  | ok {registry : Registry ω} {events : List Event} (h : Loading l s registry [] events) :
      LoadingEnds l s (.ok () registry)
  | error {registry : Registry ω} {fault events : List Event} {e : LoadError}
      (h : Loading l s registry fault events) : LoadingEnds l s (.error e registry)

theorem LoadingEnds.of_state {result : EStateM.Result LoadError (Registry ω) Unit}
    (h : Loading l s (Action.state result) [] events) : LoadingEnds l s result := by
  cases result with
  | ok _ registry => exact .ok h
  | error e registry => exact .error h

/-- A failure ends the loading, and what follows a success goes on with it. -/
theorem LoadingEnds.bind {x : Registering LoadError ω Unit}
    {f : Unit → Registering LoadError ω Unit} (hx : LoadingEnds l s (x registry))
    (hf : ∀ registry₁ events, Loading l s registry₁ [] events → LoadingEnds l s (f () registry₁)) :
    LoadingEnds l s ((x >>= f) registry) := by
  apply Action.bind_cases
  · intro _ registry₁ hok
    rw [hok] at hx
    cases hx with
    | ok h => exact hf registry₁ _ h
  · intro e registry₁ herror
    rw [herror] at hx
    cases hx with
    | error h => exact .error h

/-- Something is written and no plugin comes. -/
theorem Loading.adding (h : Loading l s registry [] events)
    (hadds : Session.Adds registry.session more s₁)
    (hphases : ∀ e ∈ more, e.phase? = none ∨ e.phase? = some .configuring)
    (hnested : Nested l (libraryEvents more)) :
    Loading l s { registry with session := s₁ } (libraryEvents more) (events ++ more) where
  adds := h.adds.trans hadds
  phases := by
    intro e he
    rcases List.mem_append.1 he with he | he
    · exact h.phases e he
    · exact hphases e he
  library := by rw [libraryEvents_append, h.library, List.append_nil]
  nested := hnested
  sourced := h.sourced
  distinct := h.distinct

theorem libraryEvents_up (l : Loader ω) (h : Handle ω) : libraryEvents (l.up h) = l.up h :=
  libraryEvents_eq_self fun _ he => phase?_of_up he

theorem libraryEvents_down (h : Handle ω) : libraryEvents h.down = h.down :=
  libraryEvents_eq_self fun _ he => Handle.phase?_of_down he

theorem libraryEvents_configuration (h : Handle ω) (overrides : Option Overrides) :
    libraryEvents (h.configuration overrides) = [] :=
  libraryEvents_eq_nil fun _ he => Handle.phase?_of_configuration he

/-- A plugin comes whose name is not in use. -/
theorem Loading.coming (h : Loading l s registry [] events) {g : Handle ω}
    {overrides : Option Overrides} (hnew : g.name ∉ registry.names) (hsourced : l.Sourced g)
    (hadds : Session.Adds registry.session (l.up g ++ g.configuration overrides) s₁) :
    Loading l s { handles := registry.handles ++ [g], session := s₁ } []
      (events ++ (l.up g ++ g.configuration overrides)) where
  adds := h.adds.trans hadds
  phases := by
    intro e he
    rcases List.mem_append.1 he with he | he
    · exact h.phases e he
    · rcases List.mem_append.1 he with he | he
      · exact .inl (phase?_of_up he)
      · exact .inr (Handle.phase?_of_configuration he)
  library := by
    simp [h.library, libraryEvents_up, libraryEvents_configuration]
  nested := .nothing
  sourced := by
    intro g' hg'
    rcases List.mem_append.1 hg' with hg' | hg'
    · exact h.sourced g' hg'
    · exact List.mem_singleton.1 hg' ▸ hsourced
  distinct := by
    rw [Registry.names, List.map_append, List.map_singleton, ← List.concat_eq_append]
    exact h.distinct.concat hnew

theorem mem_names_iff {registry : Registry ω} {name : String} :
    name ∈ registry.names ↔ registry.find? name ≠ none := by
  simp [Registry.names, Registry.find?, Registry.findIn]

theorem Loading.require (h : Loading l s registry [] events)
    (overrides : String → Option Overrides) (q : Requirement) :
    LoadingEnds l s (Registry.require l overrides q registry) := by
  rw [Registry.require, Action.get_bind]
  cases hfind : registry.find? q.name with
  | some g =>
      dsimp only
      cases g.checkGate q.name q.gate with
      | error e => exact .error h
      | ok =>
          have hnoted := (Session.Adds.refl registry.session).note .info
            (g.name ++ " v" ++ g.version.render ++ " -> built in")
          exact .ok (h.adding hnoted (by simp) .nothing)
  | none =>
      have hloaded := l.load_loaded q.name q.gate (overrides q.name) registry.session
      dsimp only
      apply Action.bind_cases
      · intro g registry₁ hlift
        obtain ⟨s₁, hload, rfl⟩ := Registry.lift_eq_ok_iff.1 hlift
        rw [hload] at hloaded
        cases hloaded with
        | loaded hname hsourced hadds =>
            have hnew : g.name ∉ registry.names := by simp [mem_names_iff, hname, hfind]
            exact .ok (h.coming hnew hsourced hadds)
      · intro e registry₁ hlift
        obtain ⟨s₁, hload, rfl⟩ := Registry.lift_eq_error_iff.1 hlift
        rw [hload] at hloaded
        cases hloaded with
        | refused hsource hadds =>
            exact .error (h.adding hadds (by simp [Event.phase?]) (.refused hsource))
        | @barren library tried _ _ hsource htried hadds =>
            have hnone : ∀ e ∈ .opened (l.settings.path q.name) ::
                (tried ++ [.unloaded (l.settings.path q.name)]), e.phase? = none := by
              have htried : ∀ e ∈ tried, e.phase? = none := fun e he =>
                phase?_of_fruitless (htried e he)
              simpa [or_imp, forall_and, Event.phase?] using htried
            refine .error (h.adding hadds (fun e he => .inl (hnone e he)) ?_)
            rw [libraryEvents_eq_self hnone]
            exact .barren hsource htried
        | @rejected g _ _ hsourced hadds =>
            refine .error (h.adding hadds ?_ ?_)
            · intro e he
              rcases List.mem_append.1 he with he | he
              · rcases List.mem_append.1 he with he | he
                · exact .inl (phase?_of_up he)
                · exact .inr (Handle.phase?_of_configuration he)
              · exact .inl (Handle.phase?_of_down he)
            · rw [libraryEvents_append, libraryEvents_append, libraryEvents_up,
                libraryEvents_configuration, libraryEvents_down]
              exact Nested.nothing.around hsourced

/-- Plugins that are loaded one after the other, up to the first that fails. -/
theorem Loading.requireAll (overrides : String → Option Overrides) (required : List Requirement)
    (h : Loading l s registry [] events) :
    LoadingEnds l s (Registry.requireAll l overrides required registry) := by
  induction required generalizing registry events with
  | nil => exact .ok h
  | cons q required ih =>
      rw [Registry.requireAll]
      exact (h.require overrides q).bind fun _ _ h₁ => ih h₁

end Loader

end RigScript
