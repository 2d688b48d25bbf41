import Mathlib.Data.List.Forall2
import RigScript.Proofs.Plugin.Action

/-! ## What the cross-check establishes

The cross-check compares the commands that a program addresses with those that the plugins in use
offer. Enabling the plugins afterwards takes nothing of it back. -/

namespace RigScript

/-- A plugin with the name of the entry is in use, and it offers the command or is fault
tolerant. -/
def Offered (handles : List (Handle ω)) (plugin command : String) : Prop :=
  ∃ h, Registry.findIn handles plugin = some h ∧
    (h.commands.contains command = true ∨ h.faultTolerant = true)

namespace Registry

variable {ω : Type} {handles handles' : List (Handle ω)}

theorem name_of_findIn {name : String} {h : Handle ω} (hfind : findIn handles name = some h) :
    h.name = name := by
  simpa using List.find?_some hfind

/-! ### The cross-check -/

theorem offered_of_crossCheckStep {s : Step} {session session' : Session ω}
    (h : crossCheckStep handles s session = .ok () session') {plugin command : String}
    (htarget : s.entry.target? = some (plugin, command)) : Offered handles plugin command := by
  unfold crossCheckStep at h
  rw [htarget] at h
  cases hfind : findIn handles plugin with
  | none =>
      simp only [hfind] at h
      cases h
  | some g =>
      simp only [hfind] at h
      split at h
      · rename_i hcontains
        exact ⟨g, hfind, .inl hcontains⟩
      · split at h
        · rename_i htolerant
          exact ⟨g, hfind, .inr htolerant⟩
        · cases h

theorem offered_of_crossCheckAll {steps : List Step} {session session' : Session ω}
    (h : crossCheckAll handles steps session = .ok () session') :
    ∀ s ∈ steps, ∀ plugin command, s.entry.target? = some (plugin, command) →
      Offered handles plugin command := by
  induction steps generalizing session with
  | nil => simp
  | cons s steps ih =>
      obtain ⟨⟨⟩, session₁, hstep, hrest⟩ := Action.bind_eq_ok_iff.1 h
      intro s' hs' plugin command htarget
      rcases List.mem_cons.1 hs' with rfl | hmem
      · exact offered_of_crossCheckStep hstep htarget
      · exact ih hrest s' hmem plugin command htarget

/-- Everything that a program addresses is offered by the plugins in use once it has passed the
cross-check. -/
theorem offered_of_crossCheck {p : Program} {r r' : Registry ω}
    (h : crossCheck p r = .ok () r') :
    ∀ s ∈ p.steps, ∀ plugin command, s.entry.target? = some (plugin, command) →
      Offered r'.handles plugin command := by
  obtain ⟨session, hall, rfl⟩ := lift_eq_ok_iff.1 h
  exact offered_of_crossCheckAll hall

/-! ### Enabling -/

/-- The same plugins in use, which may have become ready meanwhile or ceased to be. -/
def Readied (handles handles' : List (Handle ω)) : Prop :=
  List.Forall₂ (fun h h' => h' = { h with enabled := h'.enabled }) handles handles'

theorem Readied.refl (handles : List (Handle ω)) : Readied handles handles :=
  List.forall₂_same.2 fun _ _ => rfl

/-- A plugin is found under the same name, and it is the same but for its readiness. -/
theorem Readied.findIn (hreadied : Readied handles handles') {name : String} {h : Handle ω}
    (hfind : findIn handles name = some h) :
    ∃ h', Registry.findIn handles' name = some h' ∧ h' = { h with enabled := h'.enabled } := by
  unfold Readied at hreadied
  induction hreadied with
  | nil => cases hfind
  | @cons g g' gs gs' hg _ ih =>
      -- The search compares names, and enabling keeps them.
      have hname : g'.name = g.name := by rw [hg]
      unfold Registry.findIn at hfind ih ⊢
      rw [List.find?_cons] at hfind ⊢
      rw [hname]
      split at hfind
      · cases hfind
        exact ⟨g', rfl, hg⟩
      · exact ih hfind

end Registry

/-- What is offered remains so. -/
theorem Offered.of_readied {handles handles' : List (Handle ω)}
    (hreadied : Registry.Readied handles handles') {plugin command : String}
    (h : Offered handles plugin command) : Offered handles' plugin command := by
  obtain ⟨g, hfind, hoffer⟩ := h
  obtain ⟨g', hfind', hg'⟩ := hreadied.findIn hfind
  refine ⟨g', hfind', ?_⟩
  rw [hg']
  exact hoffer

end RigScript
