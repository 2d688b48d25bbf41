import RigScript.Proofs.Plugin.Action
import RigScript.Proofs.Session.Trace

/-! ## What is done to a plugin

A plugin is loaded from its library or built in, configured, initialized, enabled, and in the end
destroyed and its library unloaded. For each of these operations this file says what it adds to the
trace, also where it fails: what was done before a failure stays in the trace, and a library that
was opened is unloaded before its failure is reported. -/

namespace RigScript

variable {ω : Type} {ε : Type}

namespace Action

variable {α β : Type} {s : Session ω}

/-! ### Actions that cannot fail -/

theorem record_bind (e : Event) (f : Unit → Action ε ω β) :
    (record e >>= f) s = f () (s.record e) := rfl

theorem act_bind (m : StateM ω α) (f : α → Action ε ω β) :
    (act m >>= f) s = f (s.act m).1 (s.act m).2 := rfl

theorem note_bind (severity : Severity) (text : String) (f : Unit → Action ε ω β) :
    (note severity text >>= f) s = f () (s.note severity text) := rfl

end Action

/-! ### Hooks -/

namespace Handle

variable {h h' : Handle ω} {s s₁ : Session ω} {overrides : Option Overrides}

theorem adds_configure (h : Handle ω) (settings : List (String × String)) (s : Session ω) :
    Session.Adds s [.configured h.identity settings] (Action.state (h.configure settings s)) := by
  have hadds := ((Session.Adds.refl s).record (.configured h.identity settings)).act
    (h.plugin.configure settings)
  rw [configure, Action.record_bind, Action.act_bind]
  -- Whether the plugin takes the settings or not, they have been put to it.
  cases ((s.record (.configured h.identity settings)).act (h.plugin.configure settings)).1 <;>
    exact hadds

/-- What is said about a plugin is told to it; of others nothing is written. -/
def configuration (h : Handle ω) (overrides : Option Overrides) : List Event :=
  overrides.toList.map fun o => .configured h.identity o.settings

theorem phase?_of_configuration {e : Event} (he : e ∈ h.configuration overrides) :
    e.phase? = some .configuring := by
  obtain ⟨o, -, rfl⟩ := List.mem_map.1 he
  rfl

/-- Two handles of one plugin, from one library. -/
structure Same (h h' : Handle ω) : Prop where
  name : h'.name = h.name
  plugin : h'.plugin = h.plugin
  origin : h'.origin = h.origin

theorem Same.identity (hsame : Same h h') : h'.identity = h.identity := by
  rw [Handle.identity, Handle.identity, hsame.name, hsame.plugin]

theorem Same.configuration (hsame : Same h h') :
    h'.configuration overrides = h.configuration overrides := by
  rw [Handle.configuration, Handle.configuration, hsame.identity]

/-- Taking down what a plugin offers writes nothing. -/
theorem capture_cases (h : Handle ω) (overrides : Option Overrides) (s : Session ω) :
    (∃ h', h.capture overrides s = .ok h' s ∧ Same h h') ∨
      ∃ e, h.capture overrides s = .error e s := by
  rw [capture, Action.get_bind]
  dsimp only
  cases Version.parse? (h.plugin.version s.world) with
  | none => exact .inr ⟨_, rfl⟩
  | some version => exact .inl ⟨_, rfl, ⟨rfl, rfl, rfl⟩⟩

/-- How the preparation of a plugin ends. -/
inductive Prepared (h : Handle ω) (overrides : Option Overrides) (s : Session ω) :
    EStateM.Result LoadError (Session ω) (Handle ω) → Prop where
  | prepared {h' : Handle ω} {s₁ : Session ω} (hsame : Same h h')
      (hadds : Session.Adds s (h.configuration overrides) s₁) : Prepared h overrides s (.ok h' s₁)
  | failed {e : LoadError} {s₁ : Session ω}
      (hadds : Session.Adds s (h.configuration overrides) s₁) : Prepared h overrides s (.error e s₁)

theorem prepare_prepared (h : Handle ω) (overrides : Option Overrides) (s : Session ω) :
    Prepared h overrides s (h.prepare overrides s) := by
  -- Whatever was written before, taking down the rest does not change it.
  have hcaptured : ∀ s₁, Session.Adds s (h.configuration overrides) s₁ →
      Prepared h overrides s (h.capture overrides s₁) := by
    intro s₁ hadds
    rcases h.capture_cases overrides s₁ with ⟨h', hcapture, hsame⟩ | ⟨e, hcapture⟩
    · rw [hcapture]
      exact .prepared hsame hadds
    · rw [hcapture]
      exact .failed hadds
  cases overrides with
  | none => exact hcaptured s (.refl s)
  | some o =>
      have hconfigured := h.adds_configure o.settings s
      change Prepared h (some o) s ((h.configure o.settings >>= fun _ => h.capture (some o)) s)
      apply Action.bind_cases
      · intro _ s₁ hconfigure
        rw [hconfigure] at hconfigured
        exact hcaptured s₁ hconfigured
      · intro e s₁ hconfigure
        rw [hconfigure] at hconfigured
        exact .failed hconfigured

theorem adds_init (h : Handle ω) (s : Session ω) :
    Session.Adds s [.initialized h.identity] (Action.state (h.init s)) := by
  have hadds := ((Session.Adds.refl s).record (.initialized h.identity)).act h.plugin.init
  rw [init, Action.record_bind, Action.act_bind]
  cases ((s.record (.initialized h.identity)).act h.plugin.init).1 <;> exact hadds

/-- Enabling a plugin cannot fail, and it changes nothing but whether the plugin is ready. -/
theorem enable_ok (h : Handle ω) (s : Session ω) :
    ∃ enabled s₁, (h.enable : Action ε ω (Handle ω)) s = .ok { h with enabled } s₁ ∧
      Session.Adds s [.enabled h.identity] s₁ :=
  ⟨_, _, rfl, ⟨rfl, rfl⟩⟩

/-- What is written when a plugin goes. -/
def down (h : Handle ω) : List Event :=
  match h.origin with
  | none => []
  | some origin => [.destroyed h.identity, .unloaded origin.path]

theorem adds_release (h : Handle ω) (s : Session ω) : Session.Adds s h.down (h.release s) := by
  unfold release down
  cases h.origin with
  | none => exact .refl s
  | some origin =>
      exact ((((Session.Adds.refl s).act origin.destructor).record _).record _).note _ _

theorem release_of_builtIn (h : Handle ω) (horigin : h.origin = none) (s : Session ω) :
    h.release s = s := by
  rw [release, horigin]

end Handle

/-! ### Libraries -/

namespace Loader

variable {l : Loader ω} {path name : String} {s : Session ω} {overrides : Option Overrides}

/-- What is written when a plugin comes from its library. -/
def up (l : Loader ω) (h : Handle ω) : List Event :=
  match h.origin with
  | none => []
  | some origin =>
    [.opened origin.path, .resolved l.settings.entryPoint, .resolved l.settings.exitPoint,
      .constructed (some h.identity)]

/-- A plugin from a library has the library that is found under its name. -/
def Sourced (l : Loader ω) (h : Handle ω) : Prop :=
  ∀ origin, h.origin = some origin →
    origin.path = l.settings.path h.name ∧ ∃ library, l.source origin.path = .ok library

/-- A search for symbols, or a constructor that yielded no plugin. -/
def Fruitless (e : Event) : Prop := (∃ symbol, e = .resolved symbol) ∨ e = .constructed none

section Outcome

variable (l : Loader ω) (name : String) (overrides : Option Overrides) (s : Session ω)

/-- How loading a plugin ends. -/
inductive Loaded : EStateM.Result LoadError (Session ω) (Handle ω) → Prop where
  /-- There is no library. -/
  | refused {reason : String} {e : LoadError} {s₁ : Session ω}
      (hsource : l.source (l.settings.path name) = .error reason)
      (hadds : Session.Adds s [.opened (l.settings.path name)] s₁) : Loaded (.error e s₁)
  /-- The library yields no plugin. -/
  | barren {library : Library ω} {tried : List Event} {e : LoadError} {s₁ : Session ω}
      (hsource : l.source (l.settings.path name) = .ok library) (htried : ∀ e ∈ tried, Fruitless e)
      (hadds : Session.Adds s
        (.opened (l.settings.path name) :: (tried ++ [.unloaded (l.settings.path name)])) s₁) :
      Loaded (.error e s₁)
  /-- The plugin cannot be prepared, or the gate does not admit it. -/
  | rejected {h : Handle ω} {e : LoadError} {s₁ : Session ω} (hsourced : l.Sourced h)
      (hadds : Session.Adds s (l.up h ++ h.configuration overrides ++ h.down) s₁) :
      Loaded (.error e s₁)
  | loaded {h : Handle ω} {s₁ : Session ω} (hname : h.name = name) (hsourced : l.Sourced h)
      (hadds : Session.Adds s (l.up h ++ h.configuration overrides) s₁) : Loaded (.ok h s₁)

end Outcome

theorem up_of_same {h h' : Handle ω} (hsame : Handle.Same h h') : l.up h' = l.up h := by
  rw [up, up, hsame.origin, hsame.identity]

theorem Sourced.of_same {h h' : Handle ω} (hsourced : l.Sourced h) (hsame : Handle.Same h h') :
    l.Sourced h' := by
  unfold Sourced
  rw [hsame.origin, hsame.name]
  exact hsourced

/-- How the examination of a plugin ends. -/
theorem examine_prepared (h : Handle ω) (gate : Option Gate) (overrides : Option Overrides)
    (s : Session ω) : Handle.Prepared h overrides s (examine h gate overrides s) := by
  have hprepared := h.prepare_prepared overrides s
  unfold examine
  apply Action.bind_cases
  · intro h' s₁ hprepare
    rw [hprepare] at hprepared
    cases hprepared with
    | prepared hsame hadds =>
        cases h'.checkGate h'.name gate with
        | ok => exact .prepared hsame hadds
        | error e => exact .failed hadds
  · intro e s₁ hprepare
    exact hprepare ▸ hprepared

/-- Where the examination fails the plugin is released at once. -/
def receive (h : Handle ω) (gate : Option Gate) (overrides : Option Overrides) :
    Action LoadError ω (Handle ω) :=
  tryCatch (examine h gate overrides) fun e => do
    modify h.release
    throw e

theorem receive_cases (h : Handle ω) (gate : Option Gate) (overrides : Option Overrides)
    (s : Session ω) :
    (∃ h' s₁, receive h gate overrides s = .ok h' s₁ ∧ Handle.Same h h' ∧
      Session.Adds s (h.configuration overrides) s₁) ∨
    ∃ e s₁, receive h gate overrides s = .error e s₁ ∧
      Session.Adds s (h.configuration overrides ++ h.down) s₁ := by
  have hexamined := examine_prepared h gate overrides s
  rw [receive, Action.tryCatch_apply]
  cases hexamine : examine h gate overrides s with
  | ok h' s₁ =>
      rw [hexamine] at hexamined
      cases hexamined with
      | prepared hsame hadds => exact .inl ⟨h', s₁, rfl, hsame, hadds⟩
  | error e s₁ =>
      rw [hexamine] at hexamined
      cases hexamined with
      | failed hadds => exact .inr ⟨e, h.release s₁, rfl, hadds.trans (h.adds_release s₁)⟩

/-- A symbol is found, or the library is given up. -/
theorem lookUp_cases {α : Type} (path name symbol : String) (found : Option α) (s : Session ω) :
    (∃ a, lookUp path name symbol found s = .ok a (s.record (.resolved symbol))) ∨
      ∃ e s₁, lookUp path name symbol found s = .error e s₁ ∧
        Session.Adds s [.resolved symbol, .unloaded path] s₁ := by
  cases found with
  | some a => exact .inl ⟨a, rfl⟩
  | none => exact .inr ⟨_, _, rfl, ((Session.Adds.refl s).record _).record _⟩

theorem construct_cases (path name : String) (constructor : StateM ω (Option (Plugin ω)))
    (s : Session ω) :
    (∃ plugin s₁, construct path name constructor s = .ok plugin s₁ ∧
      Session.Adds s [.constructed (some ⟨name, plugin.model⟩)] s₁) ∨
    ∃ e s₁, construct path name constructor s = .error e s₁ ∧
      Session.Adds s [.constructed none, .unloaded path] s₁ := by
  have hadds := (Session.Adds.refl s).act constructor
  rw [construct, Action.act_bind]
  cases (s.act constructor).1 with
  | some plugin => exact .inl ⟨plugin, _, rfl, hadds.record _⟩
  | none => exact .inr ⟨_, _, rfl, (hadds.record _).record _⟩

/-- A plugin that was constructed just now. -/
def bareHandle (l : Loader ω) (name : String) (plugin : Plugin ω) (destructor : StateM ω Unit) :
    Handle ω :=
  { name, plugin, origin := some { path := l.settings.path name, destructor } }

/-- Once there is a plugin it is announced, or destroyed again. -/
theorem loaded_of_constructed {library : Library ω} {gate : Option Gate} {plugin : Plugin ω}
    {destructor : StateM ω Unit} {s₁ : Session ω} (text : Handle ω → String)
    (hsource : l.source (l.settings.path name) = .ok library)
    (hconstructed : Session.Adds s (l.up (l.bareHandle name plugin destructor)) s₁) :
    Loaded l name overrides s ((receive (l.bareHandle name plugin destructor) gate overrides >>=
      fun h => do
        Action.note .info (text h)
        return h) s₁) := by
  have hsourced : l.Sourced (l.bareHandle name plugin destructor) := by
    rintro origin ⟨⟩
    exact ⟨rfl, library, hsource⟩
  rcases receive_cases (l.bareHandle name plugin destructor) gate overrides s₁ with
    ⟨h', s₂, hreceive, hsame, hadds⟩ | ⟨e, s₂, hreceive, hadds⟩
  · rw [Action.bind_of_ok hreceive, Action.note_bind]
    have hloaded := hconstructed.trans hadds
    rw [← up_of_same hsame, ← hsame.configuration] at hloaded
    exact .loaded hsame.name (hsourced.of_same hsame) (hloaded.note _ _)
  · rw [Action.bind_of_error hreceive]
    have hrejected := hconstructed.trans hadds
    rw [← List.append_assoc] at hrejected
    exact .rejected hsourced hrejected

theorem load_loaded (l : Loader ω) (name : String) (gate : Option Gate)
    (overrides : Option Overrides) (s : Session ω) :
    Loaded l name overrides s (l.load name gate overrides s) := by
  have hopened := (Session.Adds.refl s).record (.opened (l.settings.path name))
  rw [load, Action.record_bind]
  cases hsource : l.source (l.settings.path name) with
  | error reason => exact .refused hsource hopened
  | ok library =>
      dsimp only
      rcases lookUp_cases (l.settings.path name) name l.settings.entryPoint
        (library.constructor? l.settings.entryPoint) _ with
        ⟨constructor, hentry⟩ | ⟨e, s₁, hentry, hadds⟩
      · rw [Action.bind_of_ok hentry]
        have hresolved := hopened.record (.resolved l.settings.entryPoint)
        rcases lookUp_cases (l.settings.path name) name l.settings.exitPoint
          (library.destructor? l.settings.exitPoint) _ with
          ⟨destructor, hexit⟩ | ⟨e, s₁, hexit, hadds⟩
        · rw [Action.bind_of_ok hexit]
          have hresolved := hresolved.record (.resolved l.settings.exitPoint)
          rcases construct_cases (l.settings.path name) name constructor _ with
            ⟨plugin, s₁, hconstruct, hadds⟩ | ⟨e, s₁, hconstruct, hadds⟩
          · rw [Action.bind_of_ok hconstruct]
            exact loaded_of_constructed _ hsource (hresolved.trans hadds)
          · rw [Action.bind_of_error hconstruct]
            have htried : ∀ e ∈ [.resolved l.settings.entryPoint, .resolved l.settings.exitPoint,
                .constructed none], Fruitless e := by simp [Fruitless]
            exact .barren hsource htried (hresolved.trans hadds)
        · rw [Action.bind_of_error hexit]
          have htried : ∀ e ∈ [.resolved l.settings.entryPoint, .resolved l.settings.exitPoint],
              Fruitless e := by simp [Fruitless]
          exact .barren hsource htried (hresolved.trans hadds)
      · rw [Action.bind_of_error hentry]
        have htried : ∀ e ∈ [.resolved l.settings.entryPoint], Fruitless e := by simp [Fruitless]
        exact .barren hsource htried (hopened.trans hadds)

end Loader

end RigScript
