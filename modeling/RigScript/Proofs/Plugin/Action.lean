import RigScript.Plugin.Registry

/-! ## Laws of actions

Actions on a session, a registry or a machine are put together from shorter ones. What is known of
the whole is traced back to its parts here. -/

namespace RigScript

namespace Action

/-- The state in which an action ends. -/
def state : EStateM.Result ε σ α → σ
  | .ok _ s => s
  | .error _ s => s

@[simp] theorem state_ok {ε σ α : Type} (a : α) (s : σ) :
    state (.ok a s : EStateM.Result ε σ α) = s := rfl

@[simp] theorem state_error {ε σ α : Type} (e : ε) (s : σ) :
    state (.error e s : EStateM.Result ε σ α) = s := rfl

variable {ε σ α β : Type} {x : EStateM ε σ α} {f : α → EStateM ε σ β} {s s' : σ}

theorem bind_of_ok {a : α} (h : x s = .ok a s') : (x >>= f) s = f a s' := by
  change EStateM.bind x f s = f a s'
  rw [EStateM.bind, h]

theorem bind_of_error {e : ε} (h : x s = .error e s') : (x >>= f) s = .error e s' := by
  change EStateM.bind x f s = .error e s'
  rw [EStateM.bind, h]

theorem get_bind {f : σ → EStateM ε σ β} (s : σ) : ((get : EStateM ε σ σ) >>= f) s = f s s := rfl

/-- What holds however the first part ends, holds of the whole. -/
theorem bind_cases {P : EStateM.Result ε σ β → Prop}
    (hok : ∀ a s₁, x s = .ok a s₁ → P (f a s₁))
    (herror : ∀ e s₁, x s = .error e s₁ → P (.error e s₁)) : P ((x >>= f) s) := by
  cases hx : x s with
  | ok a s₁ => exact bind_of_ok hx ▸ hok a s₁ hx
  | error e s₁ => exact bind_of_error hx ▸ herror e s₁ hx

theorem bind_eq_ok_iff {b : β} :
    (x >>= f) s = .ok b s' ↔ ∃ a s₁, x s = .ok a s₁ ∧ f a s₁ = .ok b s' := by
  cases hx : x s with
  | ok a s₁ => simp [bind_of_ok hx, and_assoc]
  | error e s₁ => simp [bind_of_error hx]

theorem bind_eq_error_iff {e : ε} :
    (x >>= f) s = .error e s' ↔
      x s = .error e s' ∨ ∃ a s₁, x s = .ok a s₁ ∧ f a s₁ = .error e s' := by
  cases hx : x s with
  | ok a s₁ => simp [bind_of_ok hx, and_assoc]
  | error e' s₁ => simp [bind_of_error hx]

theorem tryCatch_apply (x : EStateM ε σ α) (mend : ε → EStateM ε σ α) (s : σ) :
    tryCatch x mend s =
      match x s with
      | .ok a s₁ => .ok a s₁
      | .error e s₁ => mend e s₁ := by
  change EStateM.tryCatch x mend s = _
  delta EStateM.tryCatch
  cases x s <;> rfl

/-- To give a failure another name changes nothing else. -/
theorem adaptExcept_of_ok {ε' : Type} {name : ε → ε'} {a : α} (h : x s = .ok a s') :
    EStateM.adaptExcept name x s = .ok a s' := by
  rw [EStateM.adaptExcept, h]

theorem adaptExcept_of_error {ε' : Type} {name : ε → ε'} {e : ε} (h : x s = .error e s') :
    EStateM.adaptExcept name x s = .error (name e) s' := by
  rw [EStateM.adaptExcept, h]

/-! ### Two actions side by side -/

section Paired

variable {ε' σ' α' β' : Type} {S : α → α' → Prop} {T : β → β' → Prop} {R : σ → σ' → Prop}
  {F : ε → σ → ε' → σ' → Prop}

/-- Two actions that both succeed, with related results, or both fail. -/
inductive Paired (S : α → α' → Prop) (R : σ → σ' → Prop) (F : ε → σ → ε' → σ' → Prop) :
    EStateM.Result ε σ α → EStateM.Result ε' σ' α' → Prop where
  | ok {a : α} {a' : α'} {s : σ} {s' : σ'} (hresult : S a a') (hstate : R s s') :
      Paired S R F (.ok a s) (.ok a' s')
  | error {e : ε} {e' : ε'} {s : σ} {s' : σ'} (hfault : F e s e' s') :
      Paired S R F (.error e s) (.error e' s')

/-- Two actions that fail for the same reason. -/
def SameFault (R : σ → σ' → Prop) (e : ε) (s : σ) (e' : ε) (s' : σ') : Prop := e = e' ∧ R s s'

/-- Actions that are put together from pairs are a pair. -/
theorem Paired.bind {x' : EStateM ε' σ' α'} {f' : α' → EStateM ε' σ' β'} {s' : σ'}
    (h : Paired S R F (x s) (x' s'))
    (hrest : ∀ a a' s₁ s₁', S a a' → R s₁ s₁' → Paired T R F (f a s₁) (f' a' s₁')) :
    Paired T R F ((x >>= f) s) ((x' >>= f') s') := by
  cases hx : x s <;> cases hx' : x' s' <;> rw [hx, hx'] at h
  case ok.ok =>
    cases h with
    | ok hresult hstate =>
        rw [bind_of_ok hx, bind_of_ok hx']
        exact hrest _ _ _ _ hresult hstate
  case error.error =>
    cases h with
    | error hfault =>
        rw [bind_of_error hx, bind_of_error hx']
        exact .error hfault
  case ok.error => cases h
  case error.ok => cases h

/-- Where the first parts have the same result, the rest is done with it on both sides. -/
theorem Paired.bind_same {x' : EStateM ε' σ' α} {f' : α → EStateM ε' σ' β'} {s' : σ'}
    (h : Paired Eq R F (x s) (x' s'))
    (hrest : ∀ {s₁ s₁'}, R s₁ s₁' → ∀ a, Paired T R F (f a s₁) (f' a s₁')) :
    Paired T R F ((x >>= f) s) ((x' >>= f') s') := by
  refine h.bind ?_
  rintro a _ _ _ rfl hstate
  exact hrest hstate a

/-- A fault that is the same on both sides remains so under another name. -/
theorem Paired.adaptExcept {name : ε → ε'} {x' : EStateM ε σ' α'} {s' : σ'}
    (h : Paired S R (SameFault R) (x s) (x' s')) :
    Paired S R (SameFault R) (EStateM.adaptExcept name x s) (EStateM.adaptExcept name x' s') := by
  unfold EStateM.adaptExcept
  generalize x s = result at h ⊢
  generalize x' s' = result' at h ⊢
  cases h with
  | ok hresult hstate => exact .ok hresult hstate
  | error hfault => exact .error ⟨congrArg name hfault.1, hfault.2⟩

/-- Of two actions that are a pair, one succeeds if the other does. -/
theorem Paired.ok_iff {result : EStateM.Result ε σ α} {result' : EStateM.Result ε' σ' α'}
    (h : Paired S R F result result') :
    (∃ a s, result = .ok a s) ↔ ∃ a' s', result' = .ok a' s' := by
  cases h with
  | ok => exact iff_of_true ⟨_, _, rfl⟩ ⟨_, _, rfl⟩
  | error => exact iff_of_false (by simp) (by simp)

end Paired

end Action

namespace Registry

variable {ε ω α : Type} {x : Action ε ω α} {r r' : Registry ω}

/-- An action of the session leaves the plugins as they are. -/
theorem lift_eq_ok_iff {a : α} :
    lift x r = .ok a r' ↔ ∃ session, x r.session = .ok a session ∧ r' = { r with session } := by
  unfold lift
  cases x r.session with
  | ok b session => simp [eq_comm, and_assoc]
  | error e session => simp

theorem lift_eq_error_iff {e : ε} :
    lift x r = .error e r' ↔
      ∃ session, x r.session = .error e session ∧ r' = { r with session } := by
  unfold lift
  cases x r.session with
  | ok b session => simp
  | error e' session => simp [eq_comm, and_assoc]

end Registry

end RigScript
