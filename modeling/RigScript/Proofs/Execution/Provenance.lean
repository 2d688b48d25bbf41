import RigScript.Proofs.Execution.Path
import RigScript.Proofs.Plugin.Provenance

/-! ## Executions with plugins from elsewhere

The same program, executed in sessions that are alike and with the same plugins from elsewhere, goes
the same way: entry by entry the same commands are put to the same handlers and get the same
answers. -/

namespace RigScript.Machine

variable {ω α β : Type}

/-- The same program with the same counts, in sessions that are alike. -/
structure Like (m m' : Machine ω) : Prop where
  program : m.program = m'.program
  stats : m.stats = m'.stats
  session : m.session.Like m'.session

/-- Both actions end in the same way, with machines that are alike. -/
abbrev BothEnd (S : α → β → Prop) :
    EStateM.Result ExecError (Machine ω) α → EStateM.Result ExecError (Machine ω) β → Prop :=
  Action.Paired S Like (Action.SameFault Like)

variable {m m' : Machine ω} {handles handles' : List (Handle ω)}

/-! ### What steps are made of -/

namespace Like

theorem withSession (hlike : m.Like m') {f f' : Session ω → Session ω}
    (hf : (f m.session).Like (f' m'.session)) : (m.withSession f).Like (m'.withSession f') :=
  ⟨hlike.program, hlike.stats, hf⟩

theorem noted (hlike : m.Like m') (severity severity' : Severity) (text text' : String) :
    (m.noted severity text).Like (m'.noted severity' text') :=
  ⟨hlike.program, hlike.stats, hlike.session.note _ _ _ _⟩

variable (hlike : m.Like m')
include hlike

theorem getting : BothEnd Like ((get : Doing ω (Machine ω)) m) ((get : Doing ω (Machine ω)) m') :=
  .ok hlike hlike

theorem counting (f : Stats → Stats) : BothEnd Eq (count f m) (count f m') :=
  .ok rfl ⟨hlike.program, congrArg f hlike.stats, hlike.session⟩

theorem writing {f f' : Session ω → Session ω} (hf : (f m.session).Like (f' m'.session)) :
    BothEnd Eq (onSession f m) (onSession f' m') :=
  .ok rfl (hlike.withSession hf)

theorem noting (severity : Severity) (text : String) :
    BothEnd Eq (note severity text m) (note severity text m') :=
  hlike.writing (hlike.session.note _ _ _ _)

theorem acting (x : StateM ω α) : BothEnd Eq (act x m) (act x m') :=
  .ok (hlike.session.act_fst x) ⟨hlike.program, hlike.stats, hlike.session.act_snd x⟩

theorem assigning (place : Nat) (name result : String) :
    BothEnd Eq (assign place name result m) (assign place name result m') := by
  refine .ok rfl ⟨?_, hlike.stats, hlike.session⟩
  dsimp only
  rw [hlike.program]

end Like

/-! ### Commands -/

theorem call_bothEnd (hlike : m.Like m') (h : Handle ω) (origin : Option (Origin ω))
    (handler : Handler ω) (command params : String) :
    BothEnd Eq (call h handler command params m)
      (call { h with origin } handler command params m') :=
  (hlike.writing (hlike.session.record _)).bind_same fun h₁ _ => h₁.acting _

section Command

variable (hkin : List.Forall₂ Handle.Kin handles handles') (hlike : m.Like m') (delay line : Nat)
  (plugin command params : String)
include hkin hlike

/-- A command is put to the same handler of the same plugin. -/
theorem resolve_bothEnd :
    BothEnd (Option.Rel fun found found' => found.1.Kin found'.1 ∧ found.2 = found'.2)
      (resolve handles line plugin command m) (resolve handles' line plugin command m') := by
  have hfind := Registry.findIn_kin hkin plugin
  unfold resolve
  generalize Registry.findIn handles plugin = found at hfind ⊢
  generalize Registry.findIn handles' plugin = found' at hfind ⊢
  cases hfind with
  | none => exact .error ⟨rfl, hlike⟩
  | @some h _ hkin =>
      obtain ⟨origin, rfl⟩ := hkin
      dsimp only
      cases h.commands.handler? command with
      | none =>
          dsimp only
          split
          · refine (hlike.noting _ _).bind_same fun h₁ _ => ?_
            exact (h₁.counting _).bind_same fun h₂ _ => .ok .none h₂
          · exact .error ⟨rfl, hlike⟩
      | some handler =>
          dsimp only
          split
          · exact .error ⟨rfl, hlike⟩
          · exact .ok (.some ⟨⟨origin, rfl⟩, rfl⟩) hlike

theorem dispatch_bothEnd :
    BothEnd Eq (dispatch handles delay line plugin command params m)
      (dispatch handles' delay line plugin command params m') := by
  unfold dispatch
  refine (resolve_bothEnd hkin hlike line plugin command).bind fun found found' _ _ hfound h₁ => ?_
  cases hfound with
  | none => exact .ok rfl h₁
  | @some found found' hsame =>
      obtain ⟨h, handler⟩ := found
      obtain ⟨h', handler'⟩ := found'
      obtain ⟨⟨origin, rfl⟩, rfl⟩ := hsame
      refine h₁.getting.bind fun n n' m₂ m₂' hsame h₂ => ?_
      dsimp only
      rw [hsame.program]
      generalize n'.program.macros.expand params = expanded
      refine (h₂.counting _).bind_same fun h₃ _ => ?_
      refine (call_bothEnd h₃ h origin handler command expanded).bind_same fun h₄ reply => ?_
      cases reply with
      | ok result => exact (h₄.noting _ _).bind_same fun h₅ _ => .ok rfl h₅
      | error reason =>
          dsimp only
          split
          · refine (h₄.noting _ _).bind_same fun h₅ _ => ?_
            exact (h₅.counting _).bind_same fun h₆ _ => .ok rfl h₆
          · exact .error ⟨rfl, h₄⟩

theorem dispatchDetached_bothEnd :
    BothEnd Eq (dispatchDetached handles delay line plugin command params m)
      (dispatchDetached handles' delay line plugin command params m') := by
  unfold dispatchDetached
  refine (resolve_bothEnd hkin hlike line plugin command).bind fun found found' _ _ hfound h₁ => ?_
  cases hfound with
  | none => exact .ok rfl h₁
  | @some found found' hsame =>
      obtain ⟨h, handler⟩ := found
      obtain ⟨h', handler'⟩ := found'
      obtain ⟨⟨origin, rfl⟩, rfl⟩ := hsame
      refine h₁.getting.bind fun n n' m₂ m₂' hsame h₂ => ?_
      dsimp only
      rw [hsame.program]
      refine (h₂.counting _).bind_same fun h₃ _ => (h₃.counting _).bind_same fun h₄ _ => ?_
      refine (h₄.noting _ _).bind_same fun h₅ _ => h₅.writing ?_
      exact h₅.session.spawn _ _ _ _

end Command

theorem jump_bothEnd (hlike : m.Like m') (place line : Nat) (condition target : String) :
    BothEnd Eq (jump place line condition target m) (jump place line condition target m') := by
  unfold jump
  refine hlike.getting.bind fun n n' _ _ hsame h₁ => ?_
  rw [hsame.program]
  cases Condition.evaluate (n'.program.macros.expand condition) with
  | error cause => exact .error ⟨rfl, h₁⟩
  | ok holds =>
      cases holds with
      | false => exact .ok rfl h₁
      | true =>
          cases n'.program.labelIndex? target with
          | none => exact .error ⟨rfl, h₁⟩
          | some next =>
              refine (h₁.counting _).bind_same fun h₂ _ => ?_
              exact (h₂.noting _ _).bind_same fun h₃ _ => .ok rfl h₃

/-! ### Executions -/

section Execution

variable (hkin : List.Forall₂ Handle.Kin handles handles')
include hkin

theorem step_bothEnd (hlike : m.Like m') (delay place : Nat) (s : Step) :
    BothEnd Eq (step handles delay place s m) (step handles' delay place s m') := by
  unfold step
  cases s.entry with
  | command plugin command params detached =>
      cases detached with
      | false =>
          exact (dispatch_bothEnd hkin hlike delay s.line plugin command params).bind_same
            fun h₁ _ => .ok rfl h₁
      | true =>
          exact (dispatchDetached_bothEnd hkin hlike delay s.line plugin command params).bind_same
            fun h₁ _ => .ok rfl h₁
  | assign plugin command params name last =>
      have hdispatch := dispatch_bothEnd hkin hlike delay s.line plugin command params
      refine hdispatch.bind_same fun h₁ result => ?_
      refine (h₁.noting _ _).bind_same fun h₂ _ => ?_
      exact (h₂.assigning place name result).bind_same fun h₃ _ => .ok rfl h₃
  | jump condition target => exact jump_bothEnd hlike place s.line condition target
  | label name => exact .ok rfl hlike

/-- Executions end in the same way, or neither of them does. -/
theorem runFrom_like (hlike : m.Like m') (delay fuel place : Nat) :
    Option.Rel (fun ends ends' => ends.1 = ends'.1 ∧ ends.2.Like ends'.2)
      (runFrom handles delay fuel place m) (runFrom handles' delay fuel place m') := by
  induction fuel generalizing place m m' with
  | zero => exact .none
  | succ fuel ih =>
      cases hs : m.program.steps[place]? with
      | none =>
          rw [runFrom_of_none hs, runFrom_of_none (hlike.program ▸ hs)]
          exact .some ⟨congrArg Except.ok hlike.stats, hlike.noted _ _ _ _⟩
      | some s =>
          have hs' : m'.program.steps[place]? = some s := hlike.program ▸ hs
          have hticked := hlike.withSession hlike.session.tick
          have hstepped := step_bothEnd hkin hticked delay place s
          cases hstep : step handles delay place s (m.withSession (·.tick)) <;>
            cases hstep' : step handles' delay place s (m'.withSession (·.tick)) <;>
            rw [hstep, hstep'] at hstepped
          case ok.ok =>
            rw [runFrom_of_ok hs hstep, runFrom_of_ok hs' hstep']
            cases hstepped with
            | ok hresult hlike₁ =>
                subst hresult
                exact ih hlike₁ _
          case error.error =>
            rw [runFrom_of_error hs hstep, runFrom_of_error hs' hstep']
            cases hstepped with
            | error hfault =>
                obtain ⟨rfl, hlike₁⟩ := hfault
                exact .some ⟨rfl, hlike₁.noted _ _ _ _⟩
          case ok.error => cases hstepped
          case error.ok => cases hstepped

/-- However far an execution has come, the other one comes as far. -/
theorem Path.exists_like {start start' : Machine ω} {delay place : Nat} {visits : List (Visit ω)}
    (hstart : start.Like start') (hpath : Path handles delay start visits place m) :
    ∃ visits' m', Path handles' delay start' visits' place m' ∧ m.Like m' := by
  induction hpath with
  | start => exact ⟨[], start', .start, hstart⟩
  | @visit _ place _ m _ s _ hs hstep ih =>
      obtain ⟨visits', m', hpath', hlike⟩ := ih
      have hstepped := step_bothEnd hkin (hlike.withSession hlike.session.tick) delay place s
      rw [hstep] at hstepped
      cases hstep' : step handles' delay place s (m'.withSession (·.tick)) <;>
        rw [hstep'] at hstepped <;> cases hstepped
      rename_i hresult hlike₁
      subst hresult
      exact ⟨_, _, .visit hpath' (hlike.program ▸ hs) hstep', hlike₁⟩

end Execution

end RigScript.Machine
