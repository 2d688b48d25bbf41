import Mathlib.Data.List.Forall2
import RigScript.Proofs.Execution.DryRun
import RigScript.Proofs.Session.Likeness

/-! ## Where plugins come from

Once a plugin is in use nobody asks where it came from, until it is released. So what is done with
plugins between loading and execution ends the same way, and leaves sessions that are alike, if it
is done in sessions that are alike with the same plugins from elsewhere. -/

namespace RigScript

variable {ω ε α β : Type}

/-- The same plugin in use, from wherever. -/
def Handle.Kin (h h' : Handle ω) : Prop := ∃ origin, h' = { h with origin }

/-- The same plugins in sessions that are alike. -/
structure Registry.Like (r r' : Registry ω) : Prop where
  handles : List.Forall₂ Handle.Kin r.handles r'.handles
  session : r.session.Like r'.session

/-- Both actions end in the same way, and in states that are alike. -/
abbrev Session.Alike (S : α → β → Prop) :
    EStateM.Result ε (Session ω) α → EStateM.Result ε (Session ω) β → Prop :=
  Action.Paired S Session.Like (Action.SameFault Session.Like)

abbrev Registry.Alike (S : α → β → Prop) :
    EStateM.Result ε (Registry ω) α → EStateM.Result ε (Registry ω) β → Prop :=
  Action.Paired S Registry.Like (Action.SameFault Registry.Like)

variable {s s' : Session ω} {h h' : Handle ω} {handles handles' : List (Handle ω)}
  {r r' : Registry ω}

theorem Handle.Kin.symm (hkin : h.Kin h') : h'.Kin h := by
  obtain ⟨origin, rfl⟩ := hkin
  exact ⟨h.origin, rfl⟩

theorem Registry.Like.symm (hlike : r.Like r') : r'.Like r where
  handles := hlike.handles.flip.imp fun _ _ => Handle.Kin.symm
  session := hlike.session.symm

theorem Registry.Alike.symm {result result' : EStateM.Result ε (Registry ω) α}
    (halike : Alike Eq result result') : Alike Eq result' result := by
  cases halike with
  | ok hresult hlike => exact .ok hresult.symm hlike.symm
  | error hfault => exact .error ⟨hfault.1.symm, hfault.2.symm⟩

/-! ### What actions are made of -/

namespace Session.Like

variable (hlike : s.Like s')
include hlike

theorem recording (e : Event) :
    Alike Eq ((Action.record e : Action ε ω Unit) s) (Action.record e s') :=
  .ok rfl (hlike.record e)

theorem noting (severity severity' : Severity) (text text' : String) :
    Alike Eq ((Action.note severity text : Action ε ω Unit) s) (Action.note severity' text' s') :=
  .ok rfl (hlike.note _ _ _ _)

theorem acting (m : StateM ω α) :
    Alike Eq ((Action.act m : Action ε ω α) s) (Action.act m s') :=
  .ok (hlike.act_fst m) (hlike.act_snd m)

theorem getting :
    Alike Session.Like ((get : Action ε ω (Session ω)) s) ((get : Action ε ω (Session ω)) s') :=
  .ok hlike hlike

end Session.Like

theorem Handle.Kin.name (hkin : h.Kin h') : h.name = h'.name := by
  obtain ⟨origin, rfl⟩ := hkin
  rfl

namespace Registry

/-- The plugin of a name is the same on both sides, or there is none. -/
theorem findIn_kin (hkin : List.Forall₂ Handle.Kin handles handles') (name : String) :
    Option.Rel Handle.Kin (findIn handles name) (findIn handles' name) := by
  unfold findIn
  induction hkin with
  | nil => exact .none
  | @cons h h' _ _ hhead _ ih =>
      obtain ⟨origin, rfl⟩ := hhead
      rw [List.find?_cons, List.find?_cons]
      dsimp only
      split
      · exact .some ⟨origin, rfl⟩
      · exact ih

theorem map_name_kin (hkin : List.Forall₂ Handle.Kin handles handles') :
    handles.map (·.name) = handles'.map (·.name) := by
  induction hkin with
  | nil => rfl
  | cons hhead _ ih => rw [List.map_cons, List.map_cons, ih, hhead.name]

theorem Like.names (hlike : r.Like r') : r.names = r'.names := map_name_kin hlike.handles

/-- What is done in sessions side by side is done to the registries side by side. -/
theorem Like.lift_paired (hlike : r.Like r') {S : α → β → Prop}
    {F : ε → Session ω → ε → Session ω → Prop} {G : ε → Registry ω → ε → Registry ω → Prop}
    (hfault : ∀ e s e' s', F e s e' s' → G e { r with session := s } e' { r' with session := s' })
    {x : Action ε ω α} {x' : Action ε ω β}
    (hpair : Action.Paired S Session.Like F (x r.session) (x' r'.session)) :
    Action.Paired S Registry.Like G (lift x r) (lift x' r') := by
  unfold lift
  cases hx : x r.session <;> cases hx' : x' r'.session <;> rw [hx, hx'] at hpair
  case ok.ok =>
    cases hpair with
    | ok hresult hstate => exact .ok hresult ⟨hlike.handles, hstate⟩
  case error.error =>
    cases hpair with
    | error hpair => exact .error (hfault _ _ _ _ hpair)
  case ok.error => cases hpair
  case error.ok => cases hpair

theorem Like.lifting (hlike : r.Like r') {S : α → β → Prop} {x : Action ε ω α} {x' : Action ε ω β}
    (hpair : Session.Alike S (x r.session) (x' r'.session)) :
    Alike S (lift x r) (lift x' r') :=
  hlike.lift_paired (fun _ _ _ _ hfault => ⟨hfault.1, hlike.handles, hfault.2⟩) hpair

end Registry

/-! ### Comparing -/

namespace Registry

theorem crossCheckStep_alike (hkin : List.Forall₂ Handle.Kin handles handles') (step : Step)
    (hlike : s.Like s') :
    Session.Alike Eq (crossCheckStep handles step s) (crossCheckStep handles' step s') := by
  unfold crossCheckStep
  cases step.entry.target? with
  | none => exact .ok rfl hlike
  | some target =>
      obtain ⟨plugin, command⟩ := target
      have hfind := findIn_kin hkin plugin
      dsimp only
      generalize findIn handles plugin = found at hfind ⊢
      generalize findIn handles' plugin = found' at hfind ⊢
      cases hfind with
      | none => exact .error ⟨rfl, hlike⟩
      | some hkin =>
          obtain ⟨origin, rfl⟩ := hkin
          dsimp only
          split
          · exact .ok rfl hlike
          · split
            · exact hlike.noting _ _ _ _
            · exact .error ⟨rfl, hlike⟩

theorem crossCheckAll_alike (hkin : List.Forall₂ Handle.Kin handles handles') (steps : List Step)
    (hlike : s.Like s') :
    Session.Alike Eq (crossCheckAll handles steps s) (crossCheckAll handles' steps s') := by
  induction steps generalizing s s' with
  | nil => exact .ok rfl hlike
  | cons step steps ih =>
      unfold crossCheckAll
      exact (crossCheckStep_alike hkin step hlike).bind_same fun h₁ _ => ih h₁

theorem crossCheck_alike (p : Program) (hlike : r.Like r') :
    Alike Eq (crossCheck p r) (crossCheck p r') :=
  hlike.lifting (crossCheckAll_alike hlike.handles p.steps hlike.session)

/-! ### Bringing up -/

theorem init_alike (hkin : h.Kin h') (hlike : s.Like s') :
    Session.Alike Eq (h.init s) (h'.init s') := by
  obtain ⟨origin, rfl⟩ := hkin
  unfold Handle.init
  refine (hlike.recording _).bind_same fun h₁ _ => (h₁.acting _).bind_same fun h₂ result => ?_
  cases result with
  | ok _ => exact .ok rfl h₂
  | error reason => exact .error ⟨rfl, h₂⟩

theorem initEach_alike (hkin : List.Forall₂ Handle.Kin handles handles') (hlike : s.Like s') :
    Session.Alike Eq (initEach handles s) (initEach handles' s') := by
  induction hkin generalizing s s' with
  | nil => exact .ok rfl hlike
  | cons hhead _ ih =>
      unfold initEach
      exact (init_alike hhead hlike).bind_same fun h₁ _ => ih h₁

theorem initAll_alike (hlike : r.Like r') : Alike Eq (initAll r) (initAll r') := by
  have heach := hlike.lifting (initEach_alike hlike.handles hlike.session)
  exact heach.bind_same fun h₁ _ => h₁.lifting (.ok rfl (h₁.session.note _ _ _ _))

theorem enable_alike (hkin : h.Kin h') (hlike : s.Like s') :
    Session.Alike Handle.Kin ((h.enable : Action ε ω (Handle ω)) s) (h'.enable s') := by
  obtain ⟨origin, rfl⟩ := hkin
  unfold Handle.enable
  refine (hlike.recording _).bind_same fun h₁ _ => (h₁.acting _).bind_same fun h₂ _ => ?_
  refine h₂.getting.bind ?_
  intro _ _ _ _ hworld h₃
  refine (h₃.noting _ _ _ _).bind_same fun h₄ _ => ?_
  rw [hworld.world]
  exact .ok ⟨origin, rfl⟩ h₄

theorem enableEach_alike (hkin : List.Forall₂ Handle.Kin handles handles') (hlike : s.Like s') :
    Session.Alike (List.Forall₂ Handle.Kin)
      ((enableEach handles : Action ε ω (List (Handle ω))) s) (enableEach handles' s') := by
  induction hkin generalizing s s' with
  | nil => exact .ok .nil hlike
  | cons hhead _ ih =>
      unfold enableEach
      refine (enable_alike hhead hlike).bind fun _ _ _ _ hkin₁ h₁ => ?_
      exact (ih h₁).bind fun _ _ _ _ hkins h₂ => .ok (.cons hkin₁ hkins) h₂

theorem enableAll_alike (hlike : r.Like r') :
    Alike Eq ((enableAll : Registering ε ω Unit) r) (enableAll r') := by
  have heach := hlike.lifting (enableEach_alike (ε := ε) hlike.handles hlike.session)
  exact heach.bind fun _ _ _ _ hkins h₁ => .ok rfl ⟨hkins, h₁.session⟩

end Registry

/-! ### Checking parameters -/

namespace Execution

theorem checkArguments_alike (hkin : h.Kin h') (line : Nat) (command params : String)
    (check : ArgumentCheck) (hlike : s.Like s') :
    Session.Alike Eq (checkArguments h line command params check s)
      (checkArguments h' line command params check s') := by
  obtain ⟨origin, rfl⟩ := hkin
  unfold checkArguments
  refine (hlike.recording _).bind_same fun h₁ _ => ?_
  cases check params with
  | ok _ => exact h₁.noting _ _ _ _
  | error reason =>
      dsimp only
      split
      · exact h₁.noting _ _ _ _
      · exact (h₁.noting _ _ _ _).bind_same fun h₂ _ => .error ⟨rfl, h₂⟩

theorem dryStep_alike (hkin : List.Forall₂ Handle.Kin handles handles') (macros : MacroTable)
    (step : Step) (hlike : s.Like s') :
    Session.Alike Eq (dryStep handles macros step s) (dryStep handles' macros step s') := by
  rw [dryStep_eq, dryStep_eq]
  cases step.entry.request? with
  | none => exact .ok rfl hlike
  | some request =>
      obtain ⟨plugin, command, params⟩ := request
      have hfind := Registry.findIn_kin hkin plugin
      dsimp only
      unfold dryCommand
      generalize Registry.findIn handles plugin = found at hfind ⊢
      generalize Registry.findIn handles' plugin = found' at hfind ⊢
      cases hfind with
      | none => exact .error ⟨rfl, hlike⟩
      | @some h h' hkin =>
          have hsame : h'.commands = h.commands ∧ h'.faultTolerant = h.faultTolerant := by
            obtain ⟨origin, rfl⟩ := hkin
            exact ⟨rfl, rfl⟩
          dsimp only
          rw [hsame.1, hsame.2]
          split
          · cases h.commands.check? command with
            | none => exact .ok rfl hlike
            | some check =>
                exact (checkArguments_alike hkin _ _ _ _ hlike).bind_same fun h₁ _ => .ok rfl h₁
          · split
            · exact .ok rfl hlike
            · exact .error ⟨rfl, hlike⟩

theorem dryEach_alike (hkin : List.Forall₂ Handle.Kin handles handles') (macros : MacroTable)
    (steps : List Step) (hlike : s.Like s') :
    Session.Alike Eq (dryEach handles macros steps s) (dryEach handles' macros steps s') := by
  induction steps generalizing s s' with
  | nil => exact .ok rfl hlike
  | cons step steps ih =>
      unfold dryEach
      refine (dryStep_alike hkin macros step hlike).bind_same fun h₁ n => ?_
      refine (ih h₁).bind_same fun h₂ k => ?_
      exact .ok rfl h₂

theorem dryRun_alike (p : Program) (hkin : List.Forall₂ Handle.Kin handles handles')
    (hlike : s.Like s') : Session.Alike Eq (dryRun handles p s) (dryRun handles' p s') := by
  unfold dryRun
  refine (dryEach_alike hkin p.macros p.steps hlike).bind_same fun h₁ n => ?_
  exact (h₁.noting _ _ _ _).bind_same fun h₂ _ => .ok rfl h₂

end Execution

end RigScript
