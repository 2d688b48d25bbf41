import RigScript.Proofs.Execution.Provenance
import RigScript.Proofs.Program.Build
import RigScript.Proofs.Runner.Phases
import RigScript.Proofs.Runner.Supply

/-! ## Plugins in the place of others

A plugin that is built in can take the place of one from a library. Once all plugins of a program
are there, everything that is done with them is done in the same way and in the same order, whatever
place they came from, and the execution ends in the same way. -/

namespace RigScript.Runner

variable {ω : Type} {r r' : Runner ω} {p : Program} {session : Session ω}
  {registry registry' : Registry ω}

/-- What can be seen of the end of an execution: what comes of it, and the hooks. -/
def seen (ending : Result ω) : Except RunError Report × List Event :=
  (ending.1, hookEvents ending.2.trace)

/-! ### Before execution -/

/-- The bringing up goes on when the plugins are there. -/
theorem bringUp_of_supplied (hsupplied : r.supplied p { session } = .ok () registry) :
    r.bringUp p { session } =
      (Registry.crossCheck p >>= fun _ => Registry.initAll) registry := by
  have hbringUp : r.bringUp p =
      r.supplied p >>= fun _ => Registry.crossCheck p >>= fun _ => Registry.initAll := by
    simp only [bringUp, supplied, bind_assoc]
  rw [hbringUp, Action.bind_of_ok hsupplied]

theorem prepare_alike (hsupplied : r.supplied p { session } = .ok () registry)
    (hsupplied' : r'.supplied p { session } = .ok () registry') (hlike : registry.Like registry') :
    Registry.Alike Eq (r.prepare p { session }) (r'.prepare p { session }) := by
  have hup : Registry.Alike Eq (r.bringUp p { session }) (r'.bringUp p { session }) := by
    rw [bringUp_of_supplied hsupplied, bringUp_of_supplied hsupplied']
    exact (Registry.crossCheck_alike p hlike).bind_same fun h₁ _ => Registry.initAll_alike h₁
  unfold prepare
  refine hup.adaptExcept.bind_same fun h₁ _ => ?_
  rw [Action.get_bind, Action.get_bind]
  have hdry := h₁.lifting (Execution.dryRun_alike p h₁.handles h₁.session)
  exact hdry.adaptExcept.bind_same fun h₂ _ => Registry.enableAll_alike h₂

/-! ### The end of an execution -/

theorem idle_of_prepare (hidle : session.pool.tasks = []) (r : Runner ω) (p : Program) :
    (Action.state (r.prepare p { session })).session.pool.tasks = [] := by
  obtain ⟨fault, loading, checks, hcourse⟩ := course_of_prepare hidle r p
  exact hcourse.idle hidle

/-- When plugins go no hooks are called. -/
theorem hookEvents_releaseAll (hlike : registry.Like registry')
    (hidle : registry.session.pool.tasks = []) :
    hookEvents registry.releaseAll.trace = hookEvents registry'.releaseAll.trace := by
  have hidle' : registry'.session.pool.tasks = [] := hlike.session.pool ▸ hidle
  have hhooks := (Registry.adds_releaseAll hidle).hookEvents_eq fun _ => Handle.phase?_of_going
  have hhooks' := (Registry.adds_releaseAll hidle').hookEvents_eq fun _ => Handle.phase?_of_going
  exact hhooks.trans (hlike.session.hooks.trans hhooks'.symm)

theorem seen_conclude (hlike : registry.Like registry') (ending : Machine.Ending) :
    seen (conclude registry ending) = seen (conclude registry' ending) := by
  -- All tasks are finished before any plugin goes, so destructors have no influence on them.
  have hjoined := hlike.session.joinAll
  have hresult : (conclude registry ending).1 = (conclude registry' ending).1 := by
    cases ending with
    | error e => rfl
    | ok stats =>
        have hreport : report registry.names stats registry.session.joinAll.pool.failures =
            report registry'.names stats registry'.session.joinAll.pool.failures := by
          rw [hlike.names, hjoined.pool]
        exact congrArg Except.ok hreport
  have hhooks := (adds_conclude registry ending).hookEvents_eq fun _ => Handle.phase?_of_going
  have hhooks' := (adds_conclude registry' ending).hookEvents_eq fun _ => Handle.phase?_of_going
  refine Prod.ext hresult ?_
  exact hhooks.trans (hjoined.hooks.trans hhooks'.symm)

/-- The program is executed in the same way, and the plugins go. -/
theorem seen_run (hlike : registry.Like registry') (p : Program) (delay fuel : Nat) :
    (do
      let (ending, m) ← Machine.run { program := p, session := registry.session }
        registry.handles delay fuel
      return conclude { registry with session := m.session } ending : Option (Result ω)).map seen =
    (do
      let (ending, m) ← Machine.run { program := p, session := registry'.session }
        registry'.handles delay fuel
      return conclude { registry' with session := m.session } ending : Option (Result ω)).map
        seen := by
  have hstart : Machine.Like { program := p, session := registry.session }
      { program := p, session := registry'.session } := ⟨rfl, rfl, hlike.session⟩
  have hrun := Machine.runFrom_like hlike.handles hstart delay fuel 0
  unfold Machine.run
  generalize Machine.runFrom registry.handles delay fuel 0 _ = ends at hrun ⊢
  generalize Machine.runFrom registry'.handles delay fuel 0 _ = ends' at hrun ⊢
  cases hrun with
  | none => rfl
  | @some ends ends' hsame =>
      obtain ⟨ending, m⟩ := ends
      obtain ⟨ending', m'⟩ := ends'
      obtain ⟨rfl, hlike'⟩ := hsame
      have hended : Registry.Like { registry with session := m.session }
          { registry' with session := m'.session } := ⟨hlike.handles, hlike'.session⟩
      exact congrArg some (seen_conclude hended ending)

section Execution

variable (hidle : session.pool.tasks = []) (hsettings : r.settings = r'.settings)
  (hmode : r.validateOnly = r'.validateOnly)
  (hprepared : Registry.Alike Eq (r.prepare p { session }) (r'.prepare p { session }))
include hidle hsettings hmode hprepared

/-- Executions end in the same way, or neither of them does. -/
theorem execute_seen (fuel : Nat) :
    (r.execute p session fuel).map seen = (r'.execute p session fuel).map seen := by
  have hempty := idle_of_prepare hidle r p
  unfold execute
  rw [hmode, hsettings]
  split
  · rfl
  · generalize r.prepare p { session } = result at hprepared hempty ⊢
    generalize r'.prepare p { session } = result' at hprepared ⊢
    cases hprepared with
    | ok _ hlike => exact seen_run hlike p _ fuel
    | error hfault =>
        obtain ⟨rfl, hlike⟩ := hfault
        exact congrArg some (Prod.ext rfl (hookEvents_releaseAll hlike hempty))

/-- What is seen of the one while it goes on is seen of the other. -/
theorem Observed.exists_alike {session₁ : Session ω} (h : Observed r p session session₁) :
    ∃ session₁', Observed r' p session session₁' ∧
      hookEvents session₁'.trace = hookEvents session₁.trace := by
  cases h with
  | @ended fuel result _ hexecute =>
      have hseen := execute_seen hidle hsettings hmode hprepared fuel
      rw [hexecute] at hseen
      obtain ⟨⟨result', session₁'⟩, hexecute', hsame⟩ := Option.map_eq_some_iff.1 hseen.symm
      exact ⟨session₁', .ended hexecute', congrArg Prod.snd hsame⟩
  | @running registry visits place m hprepare hpath =>
      rw [hprepare] at hprepared
      cases hprepare' : r'.prepare p { session } <;> rw [hprepare'] at hprepared <;> cases hprepared
      rename_i registry' _ hlike
      have hstart : Machine.Like { program := p, session := registry.session }
          { program := p, session := registry'.session } := ⟨rfl, rfl, hlike.session⟩
      obtain ⟨visits', m', hpath', hlike'⟩ := hpath.exists_like hlike.handles hstart
      rw [hsettings] at hpath'
      exact ⟨m'.session, .running hprepare' hpath', hlike'.session.hooks.symm⟩

end Execution

/-- Plugins that are built in and plugins from libraries are interchangeable. The plugins that a
valid program declares are all there, constructed, configured, of a version that can be read and
past their gates, if they are built in just when they are there from libraries. If so, executions
end in the same way with the same hooks called in the same order, or neither of them ends; and
whatever hooks are seen of the one while it goes on are seen of the other. -/
theorem execute_interchangeable {lines : List Line} (hlines : Program.ofLines lines = .ok p)
    {plugins : String → Plugin ω} {builtIn library : Runner ω}
    (h : Interchanges p plugins builtIn library) (hidle : session.pool.tasks = []) :
    ((∃ registry, builtIn.supplied p { session } = .ok () registry) ↔
      ∃ registry, library.supplied p { session } = .ok () registry) ∧
    ((∃ registry, library.supplied p { session } = .ok () registry) →
      (∀ fuel, (builtIn.execute p session fuel).map seen =
        (library.execute p session fuel).map seen) ∧
      ∀ hooks,
        (∃ session', Observed builtIn p session session' ∧ hookEvents session'.trace = hooks) ↔
        ∃ session', Observed library p session session' ∧ hookEvents session'.trace = hooks) := by
  have hdistinct := Program.nodup_of_pushAll (Program.ofLines_eq_ok_iff.1 hlines).1
  have hpaired := supplied_paired session hdistinct h
  refine ⟨⟨?_, ?_⟩, ?_⟩
  · rintro ⟨registry, hsupplied⟩
    obtain ⟨_, registry', hsupplied'⟩ := hpaired.ok_iff.1 ⟨(), registry, hsupplied⟩
    exact ⟨registry', hsupplied'⟩
  · rintro ⟨registry', hsupplied'⟩
    obtain ⟨_, registry, hsupplied⟩ := hpaired.ok_iff.2 ⟨(), registry', hsupplied'⟩
    exact ⟨registry, hsupplied⟩
  · rintro ⟨registry', hsupplied'⟩
    rw [hsupplied'] at hpaired
    cases hsupplied : builtIn.supplied p { session } <;> rw [hsupplied] at hpaired <;>
      cases hpaired
    rename_i registry _ hlike
    have hprepared := prepare_alike hsupplied hsupplied' hlike
    -- To be alike is symmetric, so one argument serves both directions.
    refine ⟨execute_seen hidle h.settings h.validateOnly hprepared, fun hooks => ⟨?_, ?_⟩⟩
    · rintro ⟨session₁, hobserved, rfl⟩
      exact hobserved.exists_alike hidle h.settings h.validateOnly hprepared
    · rintro ⟨session₁, hobserved, rfl⟩
      exact hobserved.exists_alike hidle h.settings.symm h.validateOnly.symm hprepared.symm

/-- A script that reads two dials, which have to be of different versions. -/
def dialLines : List Line :=
  [⟨1, "LOAD_PLUGIN LEFT == v1.1.0.0"⟩, ⟨2, "LOAD_PLUGIN RIGHT > v1.1.0.0"⟩,
    ⟨3, "TURN ?= LEFT.READ"⟩, ⟨4, "RIGHT.READ $TURN &"⟩]

def dialProgram : Program where
  required := [⟨"LEFT", some ⟨.exactly, ⟨1, 1, 0, 0⟩⟩, 1⟩,
    ⟨"RIGHT", some ⟨.above, ⟨1, 1, 0, 0⟩⟩, 2⟩]
  macros := ⟨[("TURN", .variable none)]⟩
  steps := [⟨3, "TURN ?= LEFT.READ", .assign "LEFT" "READ" "" "TURN" ""⟩,
    ⟨4, "RIGHT.READ $TURN &", .command "RIGHT" "READ" "$TURN" true⟩]

theorem ofLines_dialLines : Program.ofLines dialLines = .ok dialProgram := by decide +kernel

/-- A dial that turns whenever it is configured or read. Its version tells how far it has turned, so
two dials pass their gates only if they are configured in their order and not once more. -/
def dial : Plugin Nat where
  model := "Dial"
  version := fun turned => "1." ++ toString turned ++ ".0.0"
  commands := fun _ => CommandTable.register {} "READ"
    { call := fun _ turned => (.ok (toString turned), turned + 1) }
  configure := fun _ turned => (.ok (), turned + 1)

/-- From libraries, one dial is past its gate before the other one is configured. -/
def dialLibraries : Runner Nat where
  settings := { plugins := NameMap.ofList [("LEFT", {}), ("RIGHT", {})] }
  source := fun _ => .ok
    { constructor? := fun _ => some (pure (some dial))
      destructor? := fun _ => some (pure ()) }

/-- Built in, both dials are configured before any of them is held against its gate. -/
def dialBuiltIn : Runner Nat where
  settings := dialLibraries.settings
  source := fun _ => .error "no libraries"
  builtIns := [("LEFT", dial), ("RIGHT", dial)]

def dialHooks : List Event :=
  let left : Identity := ⟨"LEFT", "Dial"⟩
  let right : Identity := ⟨"RIGHT", "Dial"⟩
  [.configured left [], .configured right [], .initialized left, .initialized right,
    .enabled left, .enabled right, .called ⟨left, "READ", ""⟩, .started 0 ⟨right, "READ", "2"⟩,
    .finished 0 ⟨right, "READ", "2"⟩ (.done "3")]

/-- The dials of both runners are read alike, and the fuel decides for both of them. -/
theorem execute_interchangeable_dials :
    (dialBuiltIn.execute dialProgram { world := 0 } 3).map seen = some
      (.ok { plugins := ["LEFT", "RIGHT"], executed := 2, detached := 1 }, dialHooks) ∧
    (dialBuiltIn.execute dialProgram { world := 0 } 2).map seen = none := by
  have hinterchanges : Interchanges dialProgram (fun _ => dial) dialBuiltIn dialLibraries := by
    refine ⟨rfl, rfl, rfl, rfl, ?_⟩
    intro q _
    exact ⟨_, _, rfl, rfl, rfl⟩
  have hsupplied : ∃ registry, dialLibraries.supplied dialProgram { session := { world := 0 } } =
      .ok () registry := by
    have hdone : (match dialLibraries.supplied dialProgram { session := { world := 0 } } with
      | .ok _ _ => true
      | .error _ _ => false) = true := by decide +kernel
    revert hdone
    cases dialLibraries.supplied dialProgram { session := { world := 0 } } with
    | ok _ registry => exact fun _ => ⟨registry, rfl⟩
    | error e registry => exact fun hdone => by cases hdone
  have hsame := ((execute_interchangeable ofLines_dialLines hinterchanges rfl).2 hsupplied).1
  rw [hsame, hsame]
  exact ⟨by decide +kernel, by decide +kernel⟩

end RigScript.Runner
