import RigScript.Proofs.Plugin.Loading
import RigScript.Proofs.Program.Build

/-! ## Registering plugins

A plugin that is inserted takes the place of the one that has its name, or comes last. Of the
plugins that a program declares those that are not there yet come last, one after the other, up to
the first that cannot be loaded or that its gate does not admit. So a name that is there keeps its
place, and only one plugin has it. -/

namespace RigScript

variable {ω : Type}

/-! ### Gates -/

namespace Handle

variable {h : Handle ω}

/-- The plugin has the name that is required, and the gate admits the version that it reported. -/
structure Meets (h : Handle ω) (q : Requirement) : Prop where
  name : h.name = q.name
  admitted : ∀ gate, q.gate = some gate → gate.admits h.version = true

theorem checkGate_eq_ok_iff {name : String} {gate : Option Gate} :
    h.checkGate name gate = .ok () ↔ ∀ g, gate = some g → g.admits h.version = true := by
  cases gate with
  | none => simp [checkGate]
  | some g =>
      unfold checkGate
      split <;> simp_all

end Handle

namespace Loader

variable {l : Loader ω} {h h' : Handle ω} {name : String} {gate : Option Gate}
  {o : Option Overrides} {s s₁ : Session ω}

/-- A plugin stands its examination if it can be prepared and its gate admits it. -/
theorem examine_eq_ok_iff :
    examine h gate o s = .ok h' s₁ ↔
      h.prepare o s = .ok h' s₁ ∧ h'.checkGate h'.name gate = .ok () := by
  unfold examine
  rw [Action.bind_eq_ok_iff]
  constructor
  · rintro ⟨g, s₂, hprepare, hgate⟩
    cases hpass : g.checkGate g.name gate <;> rw [hpass] at hgate <;> cases hgate
    exact ⟨hprepare, hpass⟩
  · rintro ⟨hprepare, hgate⟩
    refine ⟨h', s₁, hprepare, ?_⟩
    rw [hgate]
    rfl

theorem same_of_examine (hexamine : examine h gate o s = .ok h' s₁) : Handle.Same h h' := by
  have hexamined := examine_prepared h gate o s
  rw [hexamine] at hexamined
  cases hexamined with
  | prepared hsame _ => exact hsame

/-- A failure is handed on when the plugin is released. -/
theorem receive_eq_ok_iff : receive h gate o s = .ok h' s₁ ↔ examine h gate o s = .ok h' s₁ := by
  rw [receive, Action.tryCatch_apply]
  cases examine h gate o s with
  | ok g s₂ => rfl
  | error e s₂ => constructor <;> intro hfail <;> cases hfail

/-- A plugin that is loaded was constructed and has stood its examination. -/
theorem examined_of_load (hload : l.load name gate o s = .ok h s₁) :
    ∃ plugin destructor s₂ s₃,
      examine (l.bareHandle name plugin destructor) gate o s₂ = .ok h s₃ := by
  rw [load, Action.record_bind] at hload
  cases hsource : l.source (l.settings.path name) with
  | error reason =>
      rw [hsource] at hload
      cases hload
  | ok library =>
      rw [hsource] at hload
      obtain ⟨constructor, _, -, hload⟩ := Action.bind_eq_ok_iff.1 hload
      obtain ⟨destructor, _, -, hload⟩ := Action.bind_eq_ok_iff.1 hload
      obtain ⟨plugin, s₂, -, hload⟩ := Action.bind_eq_ok_iff.1 hload
      obtain ⟨h', s₃, hreceive, hnote⟩ := Action.bind_eq_ok_iff.1 hload
      obtain rfl : h' = h := by
        rw [Action.note_bind] at hnote
        cases hnote
        rfl
      exact ⟨plugin, destructor, s₂, s₃, receive_eq_ok_iff.1 hreceive⟩

theorem meets_of_load {q : Requirement} (hload : l.load q.name q.gate o s = .ok h s₁) :
    h.Meets q ∧ h.isForeign = true := by
  obtain ⟨plugin, destructor, s₂, s₃, hexamine⟩ := examined_of_load hload
  have hsame := same_of_examine hexamine
  have hgate := (examine_eq_ok_iff.1 hexamine).2
  refine ⟨⟨hsame.name, Handle.checkGate_eq_ok_iff.1 hgate⟩, ?_⟩
  rw [Handle.isForeign, hsame.origin]
  rfl

end Loader

namespace Registry

variable {l : Loader ω} {overrides : String → Option Overrides} {q : Requirement}
  {qs : List Requirement} {h g : Handle ω} {gs fs : List (Handle ω)} {r r' : Registry ω}

/-! ### Insertions -/

theorem find?_eq_none_of_not_mem {name : String} (hnew : name ∉ r.names) : r.find? name = none := by
  by_contra hfind
  exact hnew (Loader.mem_names_iff.2 hfind)

theorem putIn_of_new (hnew : h.name ∉ gs.map (·.name)) : putIn h gs = gs ++ [h] := by
  induction gs with
  | nil => rfl
  | cons g gs ih =>
      rw [List.map_cons, List.mem_cons, not_or] at hnew
      rw [putIn, if_neg (Ne.symm hnew.1), ih hnew.2, List.cons_append]

theorem putIn_of_found (hothers : ∀ f ∈ fs, f.name ≠ h.name) (hname : g.name = h.name) :
    putIn h (fs ++ g :: gs) = fs ++ h :: gs := by
  induction fs with
  | nil => rw [List.nil_append, putIn, if_pos hname, List.nil_append]
  | cons f fs ih =>
      obtain ⟨hf, hothers⟩ := List.forall_mem_cons.1 hothers
      rw [List.cons_append, putIn, if_neg hf, ih hothers, List.cons_append]

/-- What an insertion can be. The handle comes last if its name is new; if not it stands where the
one stood that it replaces, and that one is handed back when nothing is left to do for it. -/
inductive Inserted (r : Registry ω) (h : Handle ω) : Option (Handle ω) × Registry ω → Prop where
  | last (hnew : h.name ∉ r.names) : Inserted r h (none, { r with handles := r.handles ++ [h] })
  | replacing {before after : List (Handle ω)} {g : Handle ω}
      (hhandles : r.handles = before ++ g :: after) (hname : g.name = h.name) :
      Inserted r h (some g, { handles := before ++ h :: after, session := r.session.join h.name })

theorem insert_inserted (r : Registry ω) (h : Handle ω) : Inserted r h (r.insert h) := by
  unfold insert
  cases hfind : r.find? h.name with
  | none =>
      have hnew : h.name ∉ r.names := fun hmem => Loader.mem_names_iff.1 hmem hfind
      dsimp only
      rw [putIn_of_new hnew]
      exact .last hnew
  | some g =>
      obtain ⟨hname, before, after, hhandles, hbefore⟩ := List.find?_eq_some_iff_append.1 hfind
      dsimp only
      rw [hhandles, putIn_of_found (by simpa using hbefore) (by simpa using hname)]
      exact .replacing hhandles (by simpa using hname)

/-! ### Names -/

/-- No name is lost, none leaves its place, and no name comes twice. -/
structure KeepsNames (r r' : Registry ω) : Prop where
  order : r.names <+: r'.names
  distinct : r.names.Nodup → r'.names.Nodup

namespace KeepsNames

theorem of_eq (hnames : r'.names = r.names) : KeepsNames r r' where
  order := hnames ▸ List.prefix_refl _
  distinct := hnames ▸ id

theorem trans {r₁ : Registry ω} (h : KeepsNames r r₁) (h₁ : KeepsNames r₁ r') :
    KeepsNames r r' where
  order := h.order.trans h₁.order
  distinct := h₁.distinct ∘ h.distinct

theorem of_coming (hnew : h.name ∉ r.names) (hhandles : r'.handles = r.handles ++ [h]) :
    KeepsNames r r' := by
  have hnames : r'.names = r.names.concat h.name := by
    rw [names, hhandles, List.map_append, List.map_singleton, List.concat_eq_append, names]
  constructor
  · rw [hnames]
    exact List.prefix_concat ..
  · intro hdistinct
    rw [hnames]
    exact hdistinct.concat hnew

end KeepsNames

theorem Inserted.keepsNames {result : Option (Handle ω) × Registry ω}
    (hinserted : Inserted r h result) : KeepsNames r result.2 := by
  cases hinserted with
  | last hnew => exact .of_coming hnew rfl
  | replacing hhandles hname =>
      refine .of_eq ?_
      rw [names, names, hhandles, List.map_append, List.map_append, List.map_cons, List.map_cons,
        hname]

/-! ### What a program declares -/

theorem require_of_new (l : Loader ω) (overrides : String → Option Overrides)
    (hnew : q.name ∉ r.names) :
    require l overrides q r = (do
      let h ← lift (l.load q.name q.gate (overrides q.name))
      modify fun r => { r with handles := r.handles ++ [h] } : Registering LoadError ω Unit) r := by
  rw [require, Action.get_bind, find?_eq_none_of_not_mem hnew]

/-- A plugin that is there is held against its gate, and nothing else is done. -/
theorem require_of_found (l : Loader ω) (overrides : String → Option Overrides)
    (hfind : r.find? q.name = some h) :
    require l overrides q r =
      match h.checkGate q.name q.gate with
      | .error e => .error e r
      | .ok () => .ok () (r.onSession (·.note .info
          (h.name ++ " v" ++ h.version.render ++ " -> built in"))) := by
  rw [require, Action.get_bind, hfind]
  dsimp only
  cases h.checkGate q.name q.gate <;> rfl

/-- What it can be to have a plugin. It is there or is loaded, and then it meets what is required;
if it does not come the plugins remain as they are. -/
inductive Required (q : Requirement) (r : Registry ω) :
    EStateM.Result LoadError (Registry ω) Unit → Prop where
  | present {h : Handle ω} {session : Session ω} (hfind : r.find? q.name = some h)
      (hmeets : h.Meets q) : Required q r (.ok () { r with session })
  | loaded {h : Handle ω} {session : Session ω} (hnew : q.name ∉ r.names) (hmeets : h.Meets q)
      (hforeign : h.isForeign = true) :
      Required q r (.ok () { handles := r.handles ++ [h], session })
  | failed {e : LoadError} {session : Session ω} : Required q r (.error e { r with session })

theorem require_required (l : Loader ω) (overrides : String → Option Overrides) (q : Requirement)
    (r : Registry ω) : Required q r (require l overrides q r) := by
  cases hfind : r.find? q.name with
  | some h =>
      have hname : h.name = q.name := by simpa using List.find?_some hfind
      rw [require_of_found l overrides hfind]
      cases hgate : h.checkGate q.name q.gate with
      | error e => exact .failed
      | ok _ => exact .present hfind ⟨hname, Handle.checkGate_eq_ok_iff.1 hgate⟩
  | none =>
      have hnew : q.name ∉ r.names := fun hmem => Loader.mem_names_iff.1 hmem hfind
      rw [require_of_new l overrides hnew]
      apply Action.bind_cases
      · intro h r₁ hlift
        obtain ⟨session, hload, rfl⟩ := lift_eq_ok_iff.1 hlift
        obtain ⟨hmeets, hforeign⟩ := Loader.meets_of_load hload
        exact .loaded hnew hmeets hforeign
      · intro e r₁ hlift
        obtain ⟨session, -, rfl⟩ := lift_eq_error_iff.1 hlift
        exact .failed

/-- What it can be to have plugins one after the other. -/
inductive RequiredAll : List Requirement → Registry ω →
    EStateM.Result LoadError (Registry ω) Unit → Prop where
  | nil {r : Registry ω} : RequiredAll [] r (.ok () r)
  | cons {q : Requirement} {qs : List Requirement} {r r₁ : Registry ω}
      {result : EStateM.Result LoadError (Registry ω) Unit} (hfirst : Required q r (.ok () r₁))
      (hrest : RequiredAll qs r₁ result) : RequiredAll (q :: qs) r result
  | failed {q : Requirement} {qs : List Requirement} {r r₁ : Registry ω} {e : LoadError}
      (hfirst : Required q r (.error e r₁)) : RequiredAll (q :: qs) r (.error e r₁)

theorem requireAll_requiredAll (l : Loader ω) (overrides : String → Option Overrides)
    (qs : List Requirement) (r : Registry ω) : RequiredAll qs r (requireAll l overrides qs r) := by
  induction qs generalizing r with
  | nil => exact .nil
  | cons q qs ih =>
      have hrequired := require_required l overrides q r
      rw [requireAll]
      apply Action.bind_cases
      · intro _ r₁ hok
        rw [hok] at hrequired
        exact .cons hrequired (ih r₁)
      · intro e r₁ herror
        rw [herror] at hrequired
        exact .failed hrequired

variable {result : EStateM.Result LoadError (Registry ω) Unit}

theorem Required.keepsNames (hrequired : Required q r result) :
    KeepsNames r (Action.state result) := by
  cases hrequired with
  | present | failed => exact .of_eq rfl
  | loaded hnew hmeets => exact .of_coming (hmeets.name ▸ hnew) rfl

theorem RequiredAll.keepsNames (hrequired : RequiredAll qs r result) :
    KeepsNames r (Action.state result) := by
  induction hrequired with
  | nil => exact .of_eq rfl
  | cons hfirst _ ih => exact hfirst.keepsNames.trans ih
  | failed hfirst => exact hfirst.keepsNames

/-- The plugins that come stand behind those that are there, and come from libraries. -/
theorem RequiredAll.handles (hrequired : RequiredAll qs r result) :
    ∃ new, (Action.state result).handles = r.handles ++ new ∧ ∀ h ∈ new, h.isForeign = true := by
  induction hrequired with
  | nil => exact ⟨[], (List.append_nil _).symm, by simp⟩
  | failed hfirst =>
      cases hfirst
      exact ⟨[], (List.append_nil _).symm, by simp⟩
  | cons hfirst _ ih =>
      obtain ⟨new, hhandles, hforeign⟩ := ih
      cases hfirst with
      | present => exact ⟨new, hhandles, hforeign⟩
      | @loaded h _ _ _ hloaded =>
          refine ⟨h :: new, ?_, List.forall_mem_cons.2 ⟨hloaded, hforeign⟩⟩
          rw [hhandles, List.append_assoc]
          rfl

/-- A plugin that comes is found under its name. -/
theorem find?_of_coming (hnew : h.name ∉ r.names) (hhandles : r'.handles = r.handles ++ [h]) :
    r'.find? h.name = some h := by
  have hnone := find?_eq_none_of_not_mem hnew
  unfold find? findIn at hnone ⊢
  rw [hhandles, List.find?_append, hnone]
  simp

/-- A plugin that is there is found whatever comes behind it. -/
theorem find?_of_append {name : String} {new : List (Handle ω)} (hfind : r.find? name = some h)
    (hhandles : r'.handles = r.handles ++ new) : r'.find? name = some h := by
  unfold find? findIn at hfind ⊢
  rw [hhandles, List.find?_append, hfind]
  rfl

theorem Required.met (hrequired : Required q r (.ok () r')) :
    ∃ h, r'.find? q.name = some h ∧ h.Meets q := by
  cases hrequired with
  | @present h _ hfind hmeets => exact ⟨h, hfind, hmeets⟩
  | @loaded h _ hnew hmeets =>
      refine ⟨h, ?_, hmeets⟩
      rw [← hmeets.name] at hnew ⊢
      exact find?_of_coming hnew rfl

/-- If all plugins come they are there in the end, and have passed their gates. -/
theorem RequiredAll.met (hrequired : RequiredAll qs r (.ok () r')) :
    ∀ q ∈ qs, ∃ h, r'.find? q.name = some h ∧ h.Meets q := by
  generalize hresult : (.ok () r' : EStateM.Result LoadError (Registry ω) Unit) = result
    at hrequired
  induction hrequired with
  | nil => simp
  | failed => cases hresult
  | cons hfirst hrest ih =>
      subst hresult
      obtain ⟨h, hfind, hmeets⟩ := hfirst.met
      -- Whatever comes later comes behind it, so it is still found.
      obtain ⟨new, hhandles, -⟩ := hrest.handles
      exact List.forall_mem_cons.2 ⟨⟨h, find?_of_append hfind hhandles, hmeets⟩, ih rfl⟩

/-- The plugins that are required and not there. -/
def missing (r : Registry ω) (qs : List Requirement) : List Requirement :=
  qs.filter fun q => decide (q.name ∉ r.names)

/-- A plugin that comes is missing no longer, and the others are as before. -/
theorem missing_of_coming (hother : q.name ∉ qs.map (·.name)) (hname : h.name = q.name)
    (hhandles : r'.handles = r.handles ++ [h]) : r'.missing qs = r.missing qs := by
  refine List.filter_congr fun q' hq' => ?_
  have hne : q'.name ≠ q.name := fun heq => hother (List.mem_map.2 ⟨q', hq', heq⟩)
  simp [names, hhandles, hname, hne]

/-- If no plugin is required twice, those that come are the first of those that were missing. -/
theorem RequiredAll.come (hrequired : RequiredAll qs r result)
    (hdistinct : (qs.map (·.name)).Nodup) :
    ∃ come new, come <+: r.missing qs ∧ (Action.state result).handles = r.handles ++ new ∧
      List.Forall₂ Handle.Meets new come := by
  induction hrequired with
  | nil => exact ⟨[], [], List.nil_prefix, (List.append_nil _).symm, .nil⟩
  | failed hfirst =>
      cases hfirst
      exact ⟨[], [], List.nil_prefix, (List.append_nil _).symm, .nil⟩
  | @cons q qs r r₁ result hfirst _ ih =>
      obtain ⟨hother, hdistinct⟩ := List.nodup_cons.1 hdistinct
      obtain ⟨come, new, hcome, hhandles, hmeet⟩ := ih hdistinct
      cases hfirst with
      | present hfind =>
          have hthere : q.name ∈ r.names := Loader.mem_names_iff.2 (by simp [hfind])
          refine ⟨come, new, ?_, hhandles, hmeet⟩
          rwa [missing, List.filter_cons_of_neg (by simpa using hthere)]
      | @loaded h _ hnew hmeets =>
          refine ⟨q :: come, h :: new, ?_, ?_, .cons hmeets hmeet⟩
          · -- The rest was found missing with `h` there, and is missing just as well without it.
            rw [missing_of_coming hother hmeets.name rfl] at hcome
            rw [missing, List.filter_cons_of_pos (by simpa using hnew)]
            exact List.cons_prefix_cons.2 ⟨rfl, hcome⟩
          · rw [hhandles, List.append_assoc]
            rfl

/-! ### A registry in use -/

/-- Something that is done with a registry. -/
inductive Operation (ω : Type) where
  | insert (h : Handle ω)
  /-- Load the plugins of a program, which may fail. -/
  | load (p : Program) (l : Loader ω) (overrides : String → Option Overrides)
  /-- Anything else that happens in the session, such as the release of what was replaced. -/
  | meanwhile (f : Session ω → Session ω)

def Operation.apply (r : Registry ω) : Operation ω → Registry ω
  | .insert h => (r.insert h).2
  | .load p l overrides => Action.state (loadProgram p l overrides r)
  | .meanwhile f => r.onSession f

/-- The registry that is left by operations, whether they fail or not. -/
def after (r : Registry ω) (ops : List (Operation ω)) : Registry ω := ops.foldl Operation.apply r

theorem Operation.keepsNames (r : Registry ω) (op : Operation ω) : KeepsNames r (op.apply r) := by
  cases op with
  | insert h => exact (r.insert_inserted h).keepsNames
  | load p l overrides => exact (requireAll_requiredAll l overrides p.required r).keepsNames
  | meanwhile f => exact .of_eq rfl

theorem keepsNames_after (r : Registry ω) (ops : List (Operation ω)) :
    KeepsNames r (r.after ops) := by
  induction ops generalizing r with
  | nil => exact .of_eq rfl
  | cons op ops ih => exact (op.keepsNames r).trans (ih (op.apply r))

/-- Whatever has been done with a registry that was empty, its names are distinct, and they keep
their order whatever is done next. A plugin that is inserted comes last, or takes the place of the
one that has its name. If the plugins of a program can be had, each of them is there and its gate
admits it, and those that were not there have come from libraries. If they cannot, and none is
declared twice, as in any program that is built from lines, the first of those that were missing
have come, and their gates admit them. -/
theorem distinct_and_admitted_after (session : Session ω) (ops : List (Operation ω)) :
    let r := after { session } ops
    r.names.Nodup ∧
    (∀ more, r.names <+: (r.after more).names) ∧
    (∀ h, Inserted r h (r.insert h)) ∧
    (∀ p l overrides r', loadProgram p l overrides r = .ok () r' →
      (∃ new, r'.handles = r.handles ++ new ∧ ∀ h ∈ new, h.isForeign = true) ∧
      ∀ q ∈ p.required, ∃ h, r'.find? q.name = some h ∧ h.Meets q) ∧
    (∀ p l overrides e r', loadProgram p l overrides r = .error e r' →
      (p.required.map (·.name)).Nodup →
      ∃ come new, come <+: r.missing p.required ∧ r'.handles = r.handles ++ new ∧
        List.Forall₂ Handle.Meets new come) ∧
    ∀ lines p, Program.pushAll {} lines = .ok p → (p.required.map (·.name)).Nodup := by
  intro r
  have hdistinct : r.names.Nodup := (keepsNames_after _ ops).distinct List.nodup_nil
  have horder : ∀ more, r.names <+: (r.after more).names := fun more =>
    (keepsNames_after r more).order
  have hall := fun (p : Program) l overrides => requireAll_requiredAll l overrides p.required r
  refine ⟨hdistinct, horder, r.insert_inserted, ?_, ?_, fun _ _ => Program.nodup_of_pushAll⟩
  · intro p l overrides r' hload
    have hrequired := hall p l overrides
    rw [loadProgram] at hload
    rw [hload] at hrequired
    exact ⟨hrequired.handles, hrequired.met⟩
  · intro p l overrides e r' hload hdistinct
    have hrequired := hall p l overrides
    rw [loadProgram] at hload
    rw [hload] at hrequired
    exact hrequired.come hdistinct

/-- A plugin that only has a version. -/
def plainPlugin : Plugin Unit where
  model := "PLAIN"
  version := fun _ => "1.2.0.0"
  commands := fun _ => {}

/-- The plugin comes from any library. -/
def plainLoader : Loader Unit where
  source := fun _ => .ok
    { constructor? := fun _ => some (pure (some plainPlugin))
      destructor? := fun _ => some (pure ()) }

def clock : Handle Unit := { name := "CLOCK", plugin := plainPlugin, version := ⟨1, 2, 0, 0⟩ }

/-- Of three plugins the last one should be newer than it is. -/
def demanding : Program where
  required := [⟨"CLOCK", none, 1⟩, ⟨"RIG", some ⟨.atLeast, ⟨1, 0, 0, 0⟩⟩, 2⟩,
    ⟨"LAMP", some ⟨.above, ⟨2, 0, 0, 0⟩⟩, 3⟩]

theorem distinct_and_admitted_after_clock :
    ∃ e r' come new,
      loadProgram demanding plainLoader (fun _ => none)
        (after { session := { world := () } } [.insert clock]) = .error e r' ∧
      r'.names = ["CLOCK", "RIG"] ∧ come <+: demanding.required.tail ∧
      r'.handles = clock :: new ∧ List.Forall₂ Handle.Meets new come := by
  have hnames : (match loadProgram demanding plainLoader (fun _ => none)
      (after { session := { world := () } } [.insert clock]) with
    | .ok _ _ => none
    | .error _ r' => some r'.names) = some ["CLOCK", "RIG"] := by decide +kernel
  have hmissing : (after { session := { world := () } } [.insert clock]).missing
      demanding.required = demanding.required.tail := by decide +kernel
  obtain ⟨-, -, -, -, hfailed, -⟩ :=
    distinct_and_admitted_after { world := () } [.insert clock]
  cases hload : loadProgram demanding plainLoader (fun _ => none)
    (after { session := { world := () } } [.insert clock]) with
  | ok _ r' =>
      rw [hload] at hnames
      cases hnames
  | error e r' =>
      rw [hload] at hnames
      obtain ⟨come, new, hcome, hhandles, hmeet⟩ :=
        hfailed demanding plainLoader (fun _ => none) e r' hload (by decide)
      rw [hmissing] at hcome
      exact ⟨e, r', come, new, rfl, Option.some.inj hnames, hcome, hhandles, hmeet⟩

end Registry

end RigScript
