import RigScript.Proofs.Plugin.Provenance
import RigScript.Proofs.Runner.Stages

/-! ## Plugins that are built in and plugins from libraries

The plugins of a program may be built in or come from libraries. Those that are built in are all
prepared before the first of them is held against its gate; those from libraries are opened,
prepared and held against their gates one by one. Both are compared here with plugins that come one
by one and without a library. -/

namespace RigScript

variable {ω : Type}

/-! ### One plugin -/

namespace Handle

variable {h h' : Handle ω} {s s' : Session ω} (hkin : h.Kin h') (hlike : s.Like s')
include hkin hlike

theorem configure_alike (settings : List (String × String)) :
    Session.Alike Eq (h.configure settings s) (h'.configure settings s') := by
  obtain ⟨origin, rfl⟩ := hkin
  unfold configure
  refine (hlike.recording _).bind_same fun h₁ _ => (h₁.acting _).bind_same fun h₂ result => ?_
  cases result with
  | ok _ => exact .ok rfl h₂
  | error reason => exact .error ⟨rfl, h₂⟩

theorem capture_alike (overrides : Option Overrides) :
    Session.Alike Kin (h.capture overrides s) (h'.capture overrides s') := by
  obtain ⟨origin, rfl⟩ := hkin
  unfold capture
  refine hlike.getting.bind fun _ now _ _ hworld h₁ => ?_
  dsimp only
  rw [hworld.world]
  cases Version.parse? (h.plugin.version now.world) with
  | none => exact .error ⟨rfl, h₁⟩
  | some version => exact .ok ⟨origin, rfl⟩ h₁

theorem prepare_alike (overrides : Option Overrides) :
    Session.Alike Kin (h.prepare overrides s) (h'.prepare overrides s') := by
  unfold prepare
  cases overrides with
  | none => exact capture_alike hkin hlike none
  | some o =>
      exact (configure_alike hkin hlike o.settings).bind_same fun h₁ _ =>
        capture_alike hkin h₁ (some o)

end Handle

namespace Loader

variable {h h' : Handle ω} {s s' : Session ω}

theorem examine_alike (hkin : h.Kin h') (hlike : s.Like s') (gate : Option Gate)
    (overrides : Option Overrides) :
    Session.Alike Handle.Kin (examine h gate overrides s) (examine h' gate overrides s') := by
  unfold examine
  refine (Handle.prepare_alike hkin hlike overrides).bind fun g g' _ _ hkin₁ h₁ => ?_
  obtain ⟨origin, rfl⟩ := hkin₁
  have hgate : ({ g with origin } : Handle ω).checkGate g.name gate = g.checkGate g.name gate := rfl
  dsimp only
  rw [hgate]
  cases g.checkGate g.name gate with
  | ok _ => exact .ok ⟨origin, rfl⟩ h₁
  | error e => exact .error ⟨rfl, h₁⟩

/-- The library of that name has both symbols, and its constructor yields the plugin. -/
def Holds (l : Loader ω) (name : String) (plugin : Plugin ω) : Prop :=
  ∃ library destructor, l.source (l.settings.path name) = .ok library ∧
    library.constructor? l.settings.entryPoint = some (pure (some plugin)) ∧
    library.destructor? l.settings.exitPoint = some destructor

/-- That a plugin is released where its examination fails makes it neither fail nor succeed. -/
theorem receive_paired {gate : Option Gate} {overrides : Option Overrides}
    (hexamined : Session.Alike Handle.Kin (examine h gate overrides s)
      (examine h' gate overrides s')) :
    Action.Paired Handle.Kin Session.Like (fun _ _ _ _ => True) (examine h gate overrides s)
      (receive h' gate overrides s') := by
  rw [receive, Action.tryCatch_apply]
  generalize examine h gate overrides s = result at hexamined ⊢
  generalize examine h' gate overrides s' = result' at hexamined ⊢
  cases hexamined with
  | ok hkin hlike => exact .ok hkin hlike
  | error _ => exact .error trivial

/-- A plugin is loaded from its library if it stands the examination by itself. -/
theorem load_paired {l : Loader ω} {name : String} {plugin : Plugin ω}
    (hholds : l.Holds name plugin) (hlike : s.Like s') (gate : Option Gate)
    (overrides : Option Overrides) :
    Action.Paired Handle.Kin Session.Like (fun _ _ _ _ => True)
      (examine { name, plugin } gate overrides s) (l.load name gate overrides s') := by
  obtain ⟨library, destructor, hsource, hentry, hexit⟩ := hholds
  have hfound : ∀ {α : Type} (symbol : String) (a : α) (s : Session ω),
      lookUp (l.settings.path name) name symbol (some a) s = .ok a (s.record (.resolved symbol)) :=
    fun _ _ _ => rfl
  have hconstruct : ∀ s : Session ω, construct (l.settings.path name) name (pure (some plugin)) s =
      .ok plugin (s.record (.constructed (some ⟨name, plugin.model⟩))) := fun _ => rfl
  unfold load
  rw [Action.record_bind, hsource]
  dsimp only
  rw [hentry, Action.bind_of_ok (hfound _ _ _), hexit, Action.bind_of_ok (hfound _ _ _),
    Action.bind_of_ok (hconstruct _)]
  -- What has been done up to here was done to a library.
  have hopened := (((hlike.record_right (e := .opened (l.settings.path name)) rfl).record_right
    (e := .resolved l.settings.entryPoint) rfl).record_right
    (e := .resolved l.settings.exitPoint) rfl).record_right
    (e := .constructed (some ⟨name, plugin.model⟩)) rfl
  have hkin : Handle.Kin { name, plugin } (l.bareHandle name plugin destructor) := ⟨_, rfl⟩
  have hexamined := examine_alike hkin hopened gate overrides
  rw [← bind_pure (examine { name, plugin } gate overrides)]
  exact (receive_paired hexamined).bind fun _ _ _ _ hkin₁ h₁ => .ok hkin₁ (h₁.note_right _ _)

end Loader

/-! ### All plugins of a program -/

namespace Registry

variable {l : Loader ω} {plugins : String → Plugin ω} {overrides : String → Option Overrides}
  {qs : List Requirement} {r r' r₁ : Registry ω}

/-- Plugins come one by one, each of them prepared and held against its gate. -/
def bring (plugins : String → Plugin ω) (overrides : String → Option Overrides) :
    List Requirement → Registering LoadError ω Unit
  | [] => return
  | q :: qs => do
    let h ← lift (Loader.examine { name := q.name, plugin := plugins q.name } q.gate
      (overrides q.name))
    modify fun r => { r with handles := r.handles ++ [h] }
    bring plugins overrides qs

/-- Names that are new stay so when a plugin with another name comes. -/
theorem not_mem_names_append {q : Requirement} (hnew : ∀ q' ∈ qs, q'.name ∉ r.names)
    (hother : q.name ∉ qs.map (·.name)) {h : Handle ω} (hname : h.name = q.name) (s : Session ω) :
    ∀ q' ∈ qs, q'.name ∉ ({ handles := r.handles ++ [h], session := s } : Registry ω).names := by
  intro q' hq' hmem
  rw [names, List.map_append] at hmem
  rcases List.mem_append.1 hmem with hmem | hmem
  · exact hnew q' hq' hmem
  · have hsame : q'.name = h.name := List.mem_singleton.1 hmem
    exact hother (List.mem_map.2 ⟨q', hq', hsame.trans hname⟩)

/-- From libraries the plugins come just as they would without. -/
theorem requireAll_paired (hholds : ∀ q ∈ qs, l.Holds q.name (plugins q.name))
    (hnew : ∀ q ∈ qs, q.name ∉ r'.names) (hdistinct : (qs.map (·.name)).Nodup)
    (hlike : r.Like r') :
    Action.Paired Eq Registry.Like (fun _ _ _ _ => True) (bring plugins overrides qs r)
      (requireAll l overrides qs r') := by
  -- The induction is on the plugins that are still to come. None of them may be there already: such
  -- a plugin would only be held against its gate.
  induction qs generalizing r r' with
  | nil => exact .ok rfl hlike
  | cons q qs ih =>
      obtain ⟨hhead, hrest⟩ := List.nodup_cons.1 hdistinct
      obtain ⟨hhold, hholds⟩ := List.forall_mem_cons.1 hholds
      obtain ⟨hfresh, hnew⟩ := List.forall_mem_cons.1 hnew
      have hload := Loader.load_paired hhold hlike.session q.gate (overrides q.name)
      unfold bring requireAll
      cases hexamine : Loader.examine { name := q.name, plugin := plugins q.name } q.gate
        (overrides q.name) r.session <;>
        cases hloaded : l.load q.name q.gate (overrides q.name) r'.session <;>
        rw [hexamine, hloaded] at hload <;> cases hload
      case ok.ok h s h' s' hkin hsession =>
        have hrequire : require l overrides q r' =
            .ok () { handles := r'.handles ++ [h'], session := s' } := by
          rw [require_of_new l overrides hfresh,
            Action.bind_of_ok (lift_eq_ok_iff.2 ⟨s', hloaded, rfl⟩)]
          rfl
        rw [Action.bind_of_ok (lift_eq_ok_iff.2 ⟨s, hexamine, rfl⟩), Action.bind_of_ok hrequire]
        have hname : h'.name = q.name := hkin.name.symm.trans (Loader.same_of_examine hexamine).name
        exact ih hholds (not_mem_names_append hnew hhead hname s') hrest
          ⟨List.rel_append hlike.handles (.cons hkin .nil), hsession⟩
      case error.error e s e' s' _ =>
        have hrequire : require l overrides q r' = .error e' { r' with session := s' } := by
          rw [require_of_new l overrides hfresh,
            Action.bind_of_error (lift_eq_error_iff.2 ⟨s', hloaded, rfl⟩)]
        rw [Action.bind_of_error (lift_eq_error_iff.2 ⟨s, hexamine, rfl⟩),
          Action.bind_of_error hrequire]
        exact .error trivial

/-! #### Gates -/

/-- The plugins are there, and their gates admit them. -/
def Admits (r : Registry ω) (qs : List Requirement) : Prop :=
  ∀ q ∈ qs, ∃ h, r.find? q.name = some h ∧ h.checkGate q.name q.gate = .ok ()

def ungated (q : Requirement) : Requirement := { q with gate := none }

theorem examine_none (h : Handle ω) (o : Option Overrides) :
    Loader.examine h none o = h.prepare o :=
  bind_pure _

theorem bring_cons_eq_ok_iff {q : Requirement} :
    bring plugins overrides (q :: qs) r = .ok () r₁ ↔
      ∃ h s, Loader.examine { name := q.name, plugin := plugins q.name } q.gate (overrides q.name)
        r.session = .ok h s ∧
        bring plugins overrides qs { handles := r.handles ++ [h], session := s } = .ok () r₁ := by
  rw [bring, Action.bind_eq_ok_iff]
  constructor
  · rintro ⟨h, r₂, hlift, hrest⟩
    obtain ⟨s, hexamine, rfl⟩ := lift_eq_ok_iff.1 hlift
    exact ⟨h, s, hexamine, hrest⟩
  · rintro ⟨h, s, hexamine, hrest⟩
    exact ⟨h, _, lift_eq_ok_iff.2 ⟨s, hexamine, rfl⟩, hrest⟩

/-- The plugins that come stand behind those that are there. -/
theorem bring_handles (hbring : bring plugins overrides qs r = .ok () r₁) :
    ∃ handles, r₁.handles = r.handles ++ handles ∧
      handles.map (·.name) = qs.map (·.name) := by
  induction qs generalizing r with
  | nil =>
      cases hbring
      exact ⟨[], (List.append_nil _).symm, rfl⟩
  | cons q qs ih =>
      obtain ⟨h, s, hexamine, hrest⟩ := bring_cons_eq_ok_iff.1 hbring
      obtain ⟨handles, hhandles, hnames⟩ := ih hrest
      refine ⟨h :: handles, ?_, ?_⟩
      · rw [hhandles, List.append_assoc]
        rfl
      · rw [List.map_cons, List.map_cons, hnames, (Loader.same_of_examine hexamine).name]

/-- A plugin that has come is found under its name. -/
theorem find?_of_bring {q : Requirement} {h : Handle ω} {s : Session ω} (hnew : q.name ∉ r.names)
    (hname : h.name = q.name)
    (hbring : bring plugins overrides qs { handles := r.handles ++ [h], session := s } =
      .ok () r₁) : r₁.find? q.name = some h := by
  obtain ⟨handles, hhandles, -⟩ := bring_handles hbring
  rw [← hname] at hnew ⊢
  exact find?_of_append (find?_of_coming hnew rfl) hhandles

/-- Whether the gates are looked at one by one or in the end, the same plugins come. -/
theorem bring_eq_ok_iff (hnew : ∀ q ∈ qs, q.name ∉ r.names)
    (hdistinct : (qs.map (·.name)).Nodup) :
    bring plugins overrides qs r = .ok () r₁ ↔
      bring plugins overrides (qs.map ungated) r = .ok () r₁ ∧ r₁.Admits qs := by
  induction qs generalizing r with
  | nil => simp [bring, Admits]
  | cons q qs ih =>
      obtain ⟨hhead, hrest⟩ := List.nodup_cons.1 hdistinct
      obtain ⟨hfresh, hnew⟩ := List.forall_mem_cons.1 hnew
      rw [List.map_cons, bring_cons_eq_ok_iff, bring_cons_eq_ok_iff]
      constructor
      · rintro ⟨h, s, hexamine, hbring⟩
        obtain ⟨hprepare, hgate⟩ := Loader.examine_eq_ok_iff.1 hexamine
        have hname : h.name = q.name := (Loader.same_of_examine hexamine).name
        obtain ⟨hungated, hadmits⟩ :=
          (ih (not_mem_names_append hnew hhead hname s) hrest).1 hbring
        refine ⟨⟨h, s, Loader.examine_eq_ok_iff.2 ⟨hprepare, rfl⟩, hungated⟩, ?_⟩
        refine List.forall_mem_cons.2 ⟨⟨h, find?_of_bring hfresh hname hbring, ?_⟩, hadmits⟩
        rw [← hname]
        exact hgate
      · rintro ⟨⟨h, s, hexamine, hungated⟩, hadmits⟩
        -- In the end the gate finds the plugin just as it came, since no other has its name.
        obtain ⟨hprepare, -⟩ := Loader.examine_eq_ok_iff.1 hexamine
        have hname : h.name = q.name := (Loader.same_of_examine hexamine).name
        obtain ⟨⟨g, hfind, hgate⟩, hadmits⟩ := List.forall_mem_cons.1 hadmits
        obtain rfl := Option.some.inj ((find?_of_bring hfresh hname hungated).symm.trans hfind)
        rw [← hname] at hgate
        exact ⟨h, s, Loader.examine_eq_ok_iff.2 ⟨hprepare, hgate⟩,
          (ih (not_mem_names_append hnew hhead hname s) hrest).2 ⟨hungated, hadmits⟩⟩

/-- Where all plugins are there it takes only their gates to have them. -/
theorem requireAll_of_found (hfound : ∀ q ∈ qs, ∃ h, r.find? q.name = some h) :
    (r.Admits qs → ∃ r₂, requireAll l overrides qs r = .ok () r₂ ∧ r₂.handles = r.handles ∧
      ∀ s, r.session.Like s → r₂.session.Like s) ∧
    ∀ r₂, requireAll l overrides qs r = .ok () r₂ → r.Admits qs := by
  induction qs generalizing r with
  | nil => exact ⟨fun _ => ⟨r, rfl, rfl, fun _ h => h⟩, fun _ _ => by simp [Admits]⟩
  | cons q qs ih =>
      obtain ⟨⟨h, hfind⟩, hfound⟩ := List.forall_mem_cons.1 hfound
      have hadmits : r.Admits (q :: qs) ↔ h.checkGate q.name q.gate = .ok () ∧ r.Admits qs := by
        refine List.forall_mem_cons.trans (and_congr_left fun _ => ?_)
        simp [hfind]
      have hrequire := require_of_found l overrides hfind
      rw [hadmits, requireAll]
      cases hgate : h.checkGate q.name q.gate with
      | error e =>
          rw [hgate] at hrequire
          simp [Action.bind_of_error hrequire]
      | ok _ =>
          rw [hgate] at hrequire
          rw [Action.bind_of_ok hrequire]
          -- The note that is made of it leaves the session as good as it was.
          obtain ⟨hcome, hstay⟩ := ih (r := r.onSession _) hfound
          refine ⟨fun hall => ?_, fun r₂ hall => ⟨rfl, hstay r₂ hall⟩⟩
          obtain ⟨r₂, hall, hhandles, hsession⟩ := hcome hall.2
          exact ⟨r₂, hall, hhandles, fun s hlike => hsession s (hlike.note_left _ _)⟩

end Registry

namespace Runner

variable {r : Runner ω} {plugins : String → Plugin ω} {qs : List Requirement}
  {registry registry₁ : Registry ω}

/-- A plugin whose name is new replaces none. -/
theorem insert_of_new {h : Handle ω} (hnew : h.name ∉ registry.names) (s : Session ω) :
    (modifyGet (·.insert h) : Registering LoadError ω (Option (Handle ω)))
      { registry with session := s } =
        .ok none { handles := registry.handles ++ [h], session := s } := by
  have hinsert : ({ registry with session := s } : Registry ω).insert h =
      (none, { handles := registry.handles ++ [h], session := s }) := by
    have hfind : ({ registry with session := s } : Registry ω).find? h.name = none :=
      Registry.find?_eq_none_of_not_mem hnew
    rw [Registry.insert, hfind, Registry.putIn_of_new hnew]
  change EStateM.Result.ok (Registry.insert _ h).1 (Registry.insert _ h).2 = _
  rw [hinsert]

/-- Plugins that are built in come just as they would with no gates. -/
theorem register_eq_bring (hnew : ∀ q ∈ qs, q.name ∉ registry.names)
    (hdistinct : (qs.map (·.name)).Nodup) :
    r.register (qs.map fun q => (q.name, plugins q.name)) registry =
      Registry.bring plugins r.settings.overrides? (qs.map Registry.ungated) registry := by
  induction qs generalizing registry with
  | nil => rfl
  | cons q qs ih =>
      obtain ⟨hhead, hrest⟩ := List.nodup_cons.1 hdistinct
      obtain ⟨hfresh, hnew⟩ := List.forall_mem_cons.1 hnew
      have hexamine : Handle.builtIn q.name (plugins q.name) (r.settings.overrides? q.name) =
          Loader.examine { name := q.name, plugin := plugins q.name } none
            (r.settings.overrides? q.name) := (Registry.examine_none _ _).symm
      rw [List.map_cons, List.map_cons, register, Registry.bring, hexamine]
      cases hprepared : Loader.examine { name := q.name, plugin := plugins q.name } none
        (r.settings.overrides? q.name) registry.session with
      | error e s =>
          have hlift := Registry.lift_eq_error_iff.2 ⟨s, hprepared, rfl⟩
          rw [Action.bind_of_error hlift]
          exact (Action.bind_of_error hlift).symm
      | ok h s =>
          have hlift := Registry.lift_eq_ok_iff.2 ⟨s, hprepared, rfl⟩
          have hname : h.name = q.name := (Loader.same_of_examine hprepared).name
          rw [Action.bind_of_ok hlift, Action.bind_of_ok (insert_of_new (hname ▸ hfresh) s)]
          refine Eq.trans ?_ (Action.bind_of_ok hlift).symm
          exact ih (Registry.not_mem_names_append hnew hhead hname s) hrest

/-- The plugins of a program are made ready for it to use: they are constructed and configured,
their versions are read, and their gates are passed. -/
def supplied (r : Runner ω) (p : Program) : Registering LoadError ω Unit := do
  r.register r.builtIns
  Registry.loadProgram p r.loader r.settings.overrides?

/-- Of two runners one has the plugins that a program declares built in, in the order of their
declarations; the other has none built in and finds each of them in a library. -/
structure Interchanges (p : Program) (plugins : String → Plugin ω) (builtIn library : Runner ω) :
    Prop where
  settings : builtIn.settings = library.settings
  validateOnly : builtIn.validateOnly = library.validateOnly
  registered : builtIn.builtIns = p.required.map fun q => (q.name, plugins q.name)
  unregistered : library.builtIns = []
  holds : ∀ q ∈ p.required, library.loader.Holds q.name (plugins q.name)

variable {p : Program} {builtIn library : Runner ω} {session : Session ω}

/-- All plugins are there that were brought. -/
theorem found_of_bring {overrides : String → Option Overrides}
    (hbring : Registry.bring plugins overrides (qs.map Registry.ungated) { session } =
      .ok () registry) : ∀ q ∈ qs, ∃ h, registry.find? q.name = some h := by
  obtain ⟨handles, hhandles, hnames⟩ := Registry.bring_handles hbring
  intro q hq
  refine Option.ne_none_iff_exists'.1 (Loader.mem_names_iff.1 ?_)
  rw [Registry.names, hhandles, List.nil_append, hnames, List.map_map]
  exact List.mem_map_of_mem hq

/-- Plugins that are built in come first, and are then held against their gates. -/
theorem supplied_eq_ok_iff (hdistinct : (p.required.map (·.name)).Nodup)
    (hregistered : r.builtIns = p.required.map fun q => (q.name, plugins q.name)) :
    r.supplied p { session } = .ok () registry₁ ↔
      ∃ registry, Registry.bring plugins r.settings.overrides? (p.required.map Registry.ungated)
        { session } = .ok () registry ∧
        Registry.requireAll r.loader r.settings.overrides? p.required registry =
          .ok () registry₁ := by
  have hnew : ∀ q ∈ p.required, q.name ∉ ({ session } : Registry ω).names :=
    fun _ _ => List.not_mem_nil
  rw [supplied, Action.bind_eq_ok_iff, hregistered, register_eq_bring hnew hdistinct]
  exact ⟨fun ⟨_, registry, h⟩ => ⟨registry, h⟩, fun ⟨registry, h⟩ => ⟨(), registry, h⟩⟩

/-- Plugins that can come one by one can also be built in. -/
theorem supplied_of_brought (hdistinct : (p.required.map (·.name)).Nodup)
    (hregistered : r.builtIns = p.required.map fun q => (q.name, plugins q.name))
    (hbring : Registry.bring plugins r.settings.overrides? p.required { session } = .ok () registry)
    (hlike : registry.Like registry₁) :
    ∃ registry₂, r.supplied p { session } = .ok () registry₂ ∧ registry₂.Like registry₁ := by
  obtain ⟨hungated, hadmits⟩ :=
    (Registry.bring_eq_ok_iff (fun _ _ => List.not_mem_nil) hdistinct).1 hbring
  obtain ⟨registry₂, hall, hhandles, hsession⟩ :=
    (Registry.requireAll_of_found (found_of_bring hungated)).1 hadmits
  exact ⟨registry₂, (supplied_eq_ok_iff hdistinct hregistered).2 ⟨registry, hungated, hall⟩,
    hhandles ▸ hlike.handles, hsession _ hlike.session⟩

/-- Plugins that can be built in can also come one by one. -/
theorem brought_of_supplied (hdistinct : (p.required.map (·.name)).Nodup)
    (hregistered : r.builtIns = p.required.map fun q => (q.name, plugins q.name))
    (hsupplied : r.supplied p { session } = .ok () registry₁) :
    ∃ registry, Registry.bring plugins r.settings.overrides? p.required { session } =
      .ok () registry := by
  obtain ⟨registry, hungated, hall⟩ := (supplied_eq_ok_iff hdistinct hregistered).1 hsupplied
  have hadmits := (Registry.requireAll_of_found (found_of_bring hungated)).2 registry₁ hall
  exact ⟨registry, (Registry.bring_eq_ok_iff (fun _ _ => List.not_mem_nil) hdistinct).2
    ⟨hungated, hadmits⟩⟩

/-- The plugins of a program are there in the one runner just when they are there in the other. -/
theorem supplied_paired (session : Session ω) (hdistinct : (p.required.map (·.name)).Nodup)
    (h : Interchanges p plugins builtIn library) :
    Action.Paired Eq Registry.Like (fun _ _ _ _ => True) (builtIn.supplied p { session })
      (library.supplied p { session }) := by
  have hloads : library.supplied p { session } =
      Registry.requireAll library.loader builtIn.settings.overrides? p.required { session } := by
    rw [supplied, h.unregistered, h.settings]
    rfl
  have hstart : Registry.Like { session } { session } := ⟨.nil, .refl session⟩
  have hcome : Action.Paired Eq Registry.Like (fun _ _ _ _ => True)
      (Registry.bring plugins builtIn.settings.overrides? p.required { session })
      (Registry.requireAll library.loader builtIn.settings.overrides? p.required { session }) :=
    Registry.requireAll_paired h.holds (fun _ _ => List.not_mem_nil) hdistinct hstart
  rw [hloads]
  generalize Registry.requireAll library.loader builtIn.settings.overrides? p.required
    { session } = loaded at hcome ⊢
  cases hbrought : Registry.bring plugins builtIn.settings.overrides? p.required { session } <;>
    rw [hbrought] at hcome <;> cases hcome
  case ok.ok hlike =>
    obtain ⟨registry₂, hsupplied, hlike₂⟩ :=
      supplied_of_brought hdistinct h.registered hbrought hlike
    rw [hsupplied]
    exact .ok rfl hlike₂
  case error.error =>
    -- If they could be built in, they could also come one by one, and they cannot.
    cases hsupplied : builtIn.supplied p { session } with
    | error e registry => exact .error trivial
    | ok _ registry₂ =>
        obtain ⟨registry, hbring⟩ := brought_of_supplied hdistinct h.registered hsupplied
        cases hbrought.symm.trans hbring

end Runner

end RigScript
