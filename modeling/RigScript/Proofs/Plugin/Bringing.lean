import RigScript.Proofs.Plugin.CrossCheck
import RigScript.Proofs.Plugin.Lifecycle
import RigScript.Proofs.Session.Work

/-! ## What is done to all plugins in use

The plugins in use are compared with the program, initialized, enabled, and in the end released.
Each of these goes through them in one direction. Initializing alone can stop on the way, and the
plugin that fails is the last one that is asked. -/

namespace RigScript.Registry

variable {ε ω α : Type} {handles handles' : List (Handle ω)} {s : Session ω} {registry : Registry ω}

/-- An action on the session leaves the plugins as they are, however it ends. -/
theorem state_lift (x : Action ε ω α) (registry : Registry ω) :
    Action.state (lift x registry) =
      { registry with session := Action.state (x registry.session) } := by
  unfold lift
  cases x registry.session <;> rfl

/-! ### Comparing -/

theorem adds_crossCheckStep (handles : List (Handle ω)) (step : Step) (s : Session ω) :
    Session.Adds s [] (Action.state (crossCheckStep handles step s)) := by
  unfold crossCheckStep
  cases step.entry.target? with
  | none => exact .refl s
  | some target =>
      obtain ⟨plugin, command⟩ := target
      cases hfind : findIn handles plugin with
      | none =>
          simp only [hfind]
          exact .refl s
      | some h =>
          simp only [hfind]
          split
          · exact .refl s
          · split
            · exact (Session.Adds.refl s).note _ _
            · exact .refl s

theorem adds_crossCheckAll (handles : List (Handle ω)) (steps : List Step) (s : Session ω) :
    Session.Adds s [] (Action.state (crossCheckAll handles steps s)) := by
  induction steps generalizing s with
  | nil => exact .refl s
  | cons step steps ih =>
      rw [crossCheckAll]
      exact (adds_crossCheckStep handles step s).bind fun _ s₁ => ih s₁

/-- The comparison of plugins with a program asks no plugin anything. -/
theorem crossCheck_state (p : Program) (registry : Registry ω) :
    (Action.state (crossCheck p registry)).handles = registry.handles ∧
      Session.Adds registry.session [] (Action.state (crossCheck p registry)).session := by
  rw [crossCheck, Action.get_bind, state_lift]
  exact ⟨rfl, adds_crossCheckAll registry.handles p.steps registry.session⟩

/-! ### Initializing -/

/-- The plugins that are initialized, in their order: all up to the first that fails. -/
def tried : List (Handle ω) → Session ω → List (Handle ω)
  | [], _ => []
  | h :: hs, s =>
    h :: match h.init s with
      | .ok () s₁ => tried hs s₁
      | .error _ _ => []

theorem adds_initEach (handles : List (Handle ω)) (s : Session ω) :
    Session.Adds s ((tried handles s).map (.initialized ·.identity))
      (Action.state (initEach handles s)) := by
  induction handles generalizing s with
  | nil => exact .refl s
  | cons h handles ih =>
      have hadds := h.adds_init s
      rw [initEach, tried]
      cases hinit : h.init s with
      | ok _ s₁ =>
          rw [hinit] at hadds
          rw [Action.bind_of_ok hinit]
          exact hadds.trans (ih s₁)
      | error e s₁ =>
          rw [hinit] at hadds
          rw [Action.bind_of_error hinit]
          exact hadds

theorem initAll_state (registry : Registry ω) :
    (Action.state (initAll registry)).handles = registry.handles ∧
      Session.Adds registry.session
        ((tried registry.handles registry.session).map (.initialized ·.identity))
        (Action.state (initAll registry)).session := by
  have hadds := adds_initEach registry.handles registry.session
  rw [initAll, Action.get_bind]
  cases heach : initEach registry.handles registry.session with
  | ok _ s₁ =>
      rw [heach] at hadds
      rw [Action.bind_of_ok (lift_eq_ok_iff.2 ⟨s₁, heach, rfl⟩), state_lift]
      exact ⟨rfl, hadds.note _ _⟩
  | error e s₁ =>
      rw [heach] at hadds
      rw [Action.bind_of_error (lift_eq_error_iff.2 ⟨s₁, heach, rfl⟩)]
      exact ⟨rfl, hadds⟩

/-! ### Enabling -/

/-- What does not look at the readiness of plugins does not see them being enabled. -/
theorem Readied.map_eq {β : Type} (hreadied : Readied handles handles') {f : Handle ω → β}
    (hf : ∀ (h : Handle ω) enabled, f { h with enabled } = f h) :
    handles'.map f = handles.map f := by
  unfold Readied at hreadied
  induction hreadied with
  | nil => rfl
  | cons hsame _ ih =>
      rw [List.map_cons, List.map_cons, ih, hsame, hf]

/-- Enabling asks every plugin, and cannot fail. -/
theorem enableEach_ok (handles : List (Handle ω)) (s : Session ω) :
    ∃ handles' s₁, (enableEach handles : Action ε ω (List (Handle ω))) s = .ok handles' s₁ ∧
      Readied handles handles' ∧ Session.Adds s (handles.map (.enabled ·.identity)) s₁ := by
  induction handles generalizing s with
  | nil => exact ⟨[], s, rfl, .nil, .refl s⟩
  | cons h handles ih =>
      obtain ⟨enabled, s₁, henable, hadds⟩ := h.enable_ok (ε := ε) s
      obtain ⟨handles', s₂, hrest, hreadied, hadds₁⟩ := ih s₁
      refine ⟨{ h with enabled } :: handles', s₂, ?_, .cons rfl hreadied, hadds.trans hadds₁⟩
      rw [enableEach, Action.bind_of_ok henable, Action.bind_of_ok hrest]
      rfl

theorem enableAll_ok (registry : Registry ω) :
    ∃ registry₁, (enableAll : Registering ε ω Unit) registry = .ok () registry₁ ∧
      Readied registry.handles registry₁.handles ∧
      Session.Adds registry.session (registry.handles.map (.enabled ·.identity))
        registry₁.session := by
  obtain ⟨handles', s₁, heach, hreadied, hadds⟩ :=
    enableEach_ok (ε := ε) registry.handles registry.session
  have hlift : lift (enableEach registry.handles : Action ε ω (List (Handle ω))) registry =
      .ok handles' { registry with session := s₁ } := lift_eq_ok_iff.2 ⟨s₁, heach, rfl⟩
  refine ⟨{ handles := handles', session := s₁ }, ?_, hreadied, hadds⟩
  rw [enableAll, Action.get_bind, Action.bind_of_ok hlift]
  rfl

/-! ### Releasing -/

/-- Where no task is left, releasing plugins takes them down one after the other. -/
theorem adds_releaseEach (handles : List (Handle ω)) (hidle : s.pool.tasks = []) :
    Session.Adds s (handles.flatMap Handle.down) (releaseEach handles s) := by
  induction handles generalizing s with
  | nil => exact .refl s
  | cons h handles ih =>
      have hadds := (Session.Adds.join hidle h.name).trans (h.adds_release (s.join h.name))
      have hidle₁ : (h.release (s.join h.name)).pool.tasks = [] := by rw [hadds.pool, hidle]
      exact hadds.trans (ih hidle₁)

theorem adds_releaseAll (hidle : registry.session.pool.tasks = []) :
    Session.Adds registry.session (registry.handles.reverse.flatMap Handle.down)
      registry.releaseAll := by
  have hadds := adds_releaseEach registry.handles.reverse hidle
  rw [releaseAll, Session.joinAll_eq_self (by rw [hadds.pool, hidle])]
  exact hadds

end RigScript.Registry
