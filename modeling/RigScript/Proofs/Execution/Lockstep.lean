import RigScript.Proofs.Execution.Path

/-! ## Executions in lockstep

Two executions of one program are compared here. Their plugins live in different worlds, and what
their workers do may differ as well. A script learns of all this only what the handlers answer that
it waits for: if these answer alike, the executions go the same way, entry by entry. -/

namespace RigScript

variable {ω ω' : Type}

/-- Plugins that a script can tell apart only by their answers. -/
structure Handle.Alike (h : Handle ω) (h' : Handle ω') : Prop where
  name : h.name = h'.name
  enabled : h.enabled = h'.enabled
  faultTolerant : h.faultTolerant = h'.faultTolerant
  commands : ∀ command, h.commands.contains command = h'.commands.contains command

theorem Registry.findIn_alike {handles : List (Handle ω)} {handles' : List (Handle ω')}
    (halike : List.Forall₂ Handle.Alike handles handles') (name : String) :
    Option.Rel Handle.Alike (findIn handles name) (findIn handles' name) := by
  unfold findIn
  induction halike with
  | nil => exact .none
  | cons hhead _ ih =>
      rw [List.find?_cons, List.find?_cons, ← hhead.name]
      split
      · exact .some hhead
      · exact ih

namespace Machine

/-! ### Alike machines -/

/-- Machines that have the same program and the same counts. -/
structure Alike (m : Machine ω) (m' : Machine ω') : Prop where
  program : m.program = m'.program
  stats : m.stats = m'.stats

section Related

variable {α α' β β' : Type} {R : α → α' → Prop} {S : β → β' → Prop} {m : Machine ω}
  {m' : Machine ω'}

/-- What two machines have done is alike: both have failed for the same reason, or both have
succeeded with related results. -/
inductive Related (R : α → α' → Prop) :
    EStateM.Result ExecError (Machine ω) α → EStateM.Result ExecError (Machine ω') α' → Prop where
  | ok {a : α} {a' : α'} {m : Machine ω} {m' : Machine ω'} (hresult : R a a')
      (hmachines : Alike m m') : Related R (.ok a m) (.ok a' m')
  | error {e : ExecError} {m : Machine ω} {m' : Machine ω'} (hmachines : Alike m m') :
      Related R (.error e m) (.error e m')

theorem Related.bind {x : Doing ω α} {x' : Doing ω' α'} {f : α → Doing ω β} {f' : α' → Doing ω' β'}
    (h : Related R (x m) (x' m'))
    (hrest : ∀ a a' m₁ m₁', R a a' → Alike m₁ m₁' → Related S (f a m₁) (f' a' m₁')) :
    Related S ((x >>= f) m) ((x' >>= f') m') := by
  cases hx : x m <;> cases hx' : x' m' <;> rw [hx, hx'] at h
  case ok.ok =>
    rw [Action.bind_of_ok hx, Action.bind_of_ok hx']
    cases h with
    | ok hresult hmachines => exact hrest _ _ _ _ hresult hmachines
  case error.error =>
    rw [Action.bind_of_error hx, Action.bind_of_error hx']
    cases h with
    | error hmachines => exact .error hmachines
  case ok.error => cases h
  case error.ok => cases h

theorem Alike.onSession (h : Alike m m') (f : Session ω → Session ω)
    (f' : Session ω' → Session ω') :
    Related (fun _ _ => True) (Machine.onSession f m) (Machine.onSession f' m') :=
  .ok trivial ⟨h.program, h.stats⟩

theorem Alike.count (h : Alike m m') (f : Stats → Stats) :
    Related (fun _ _ => True) (Machine.count f m) (Machine.count f m') :=
  .ok trivial ⟨h.program, congrArg f h.stats⟩

end Related

theorem Alike.withSession {m : Machine ω} {m' : Machine ω'} (h : Alike m m')
    (f : Session ω → Session ω) (f' : Session ω' → Session ω') :
    Alike (m.withSession f) (m'.withSession f') := ⟨h.program, h.stats⟩

theorem Alike.recovered {m : Machine ω} {m' : Machine ω'} (h : Alike m m') :
    Alike m.recovered m'.recovered := ⟨h.program, by rw [Machine.recovered, h.stats]; rfl⟩

theorem Alike.paced {m : Machine ω} {m' : Machine ω'} (h : Alike m m') (delay : Nat) :
    Alike (m.paced delay) (m'.paced delay) := ⟨h.program, by rw [Machine.paced, h.stats]; rfl⟩

theorem Alike.assigned {m : Machine ω} {m' : Machine ω'} (h : Alike m m') (place : Nat)
    (name result : String) : Alike (m.assigned place name result) (m'.assigned place name result) :=
  ⟨by rw [Machine.assigned, h.program]; rfl, h.stats⟩

/-! ### Alike steps -/

section Command

variable {handles : List (Handle ω)} {handles' : List (Handle ω')} {m : Machine ω}
  {m' : Machine ω'} {plugin command params : String}

/-- The search for a handler fails on both sides, comes to nothing on both, or finds a handler on
both. -/
theorem resolve_alike (halike : List.Forall₂ Handle.Alike handles handles') (m : Machine ω)
    (m' : Machine ω') (line : Nat) (plugin command : String) :
    (∃ e, resolve handles line plugin command m = .error e m ∧
      resolve handles' line plugin command m' = .error e m') ∨
    (resolve handles line plugin command m = .ok none (m.skipped line plugin command) ∧
      resolve handles' line plugin command m' = .ok none (m'.skipped line plugin command)) ∨
    ∃ found found', found.1.Alike found'.1 ∧
      resolve handles line plugin command m = .ok (some found) m ∧
      resolve handles' line plugin command m' = .ok (some found') m' := by
  have hfind := Registry.findIn_alike halike plugin
  unfold resolve
  generalize Registry.findIn handles plugin = found at hfind ⊢
  generalize Registry.findIn handles' plugin = found' at hfind ⊢
  cases hfind with
  | none => exact .inl ⟨_, rfl, rfl⟩
  | @some h h' hsame =>
      have hcommands := hsame.commands command
      rw [CommandTable.contains_eq_isSome, CommandTable.contains_eq_isSome] at hcommands
      simp only [← hsame.enabled, ← hsame.faultTolerant]
      cases hhandler : h.commands.handler? command <;>
        cases hhandler' : h'.commands.handler? command <;> rw [hhandler, hhandler'] at hcommands
      case none.none =>
        cases h.faultTolerant with
        | false => exact .inl ⟨_, rfl, rfl⟩
        | true => exact .inr (.inl ⟨rfl, rfl⟩)
      case some.some =>
        dsimp only
        split
        · exact .inl ⟨_, rfl, rfl⟩
        · exact .inr (.inr ⟨_, _, hsame, rfl, rfl⟩)
      case none.some => cases hcommands
      case some.none => cases hcommands

theorem addressee?_of_ok {line : Nat} {found : Option (Handle ω × Handler ω)} {m₁ : Machine ω}
    (h : resolve handles line plugin command m = .ok found m₁) :
    addressee? handles plugin command = found := by
  have hresolved := resolve_resolved handles line plugin command m
  rw [h] at hresolved
  exact hresolved.addressee?_eq

theorem addressee?_of_error {line : Nat} {e : ExecError} {m₁ : Machine ω}
    (h : resolve handles line plugin command m = .error e m₁) :
    addressee? handles plugin command = none := by
  have hresolved := resolve_resolved handles line plugin command m
  rw [h] at hresolved
  exact hresolved.addressee?_eq

/-- A command is put to handlers on both sides, or on neither. -/
theorem addressee?_alike (halike : List.Forall₂ Handle.Alike handles handles') (m : Machine ω)
    (m' : Machine ω') (plugin command : String) :
    Option.Rel (fun found found' => found.1.Alike found'.1)
      (addressee? handles plugin command) (addressee? handles' plugin command) := by
  rcases resolve_alike halike m m' 0 plugin command with
    ⟨e, h, h'⟩ | ⟨h, h'⟩ | ⟨found, found', hsame, h, h'⟩
  · rw [addressee?_of_error h, addressee?_of_error h']
    exact .none
  · rw [addressee?_of_ok h, addressee?_of_ok h']
    exact .none
  · rw [addressee?_of_ok h, addressee?_of_ok h']
    exact .some hsame

/-- The handlers that a command is put to answer alike. -/
def Agree (handles : List (Handle ω)) (handles' : List (Handle ω')) (m : Machine ω)
    (m' : Machine ω') (plugin command params : String) : Prop :=
  ∀ found found', addressee? handles plugin command = some found →
    addressee? handles' plugin command = some found' →
    m.reply found.2 (m.program.macros.expand params) =
      m'.reply found'.2 (m'.program.macros.expand params)

variable (halike : List.Forall₂ Handle.Alike handles handles') (hmachines : Alike m m')
  (delay line : Nat)
include halike hmachines

theorem dispatch_related (hagree : Agree handles handles' m m' plugin command params) :
    Related Eq (dispatch handles delay line plugin command params m)
      (dispatch handles' delay line plugin command params m') := by
  unfold dispatch
  rcases resolve_alike halike m m' line plugin command with
    ⟨e, h, h'⟩ | ⟨h, h'⟩ | ⟨⟨h, handler⟩, ⟨h', handler'⟩, hsame, hfound, hfound'⟩
  · rw [Action.bind_of_error h, Action.bind_of_error h']
    exact .error hmachines
  · rw [Action.bind_of_ok h, Action.bind_of_ok h']
    exact .ok rfl (hmachines.withSession _ _).recovered
  · have hreply := hagree _ _ (addressee?_of_ok hfound) (addressee?_of_ok hfound')
    rw [Action.bind_of_ok hfound, Action.bind_of_ok hfound']
    have hpace : ∀ {ω : Type} (m : Machine ω), pace delay m = .ok () (m.paced delay) :=
      fun _ => rfl
    have hcall : ∀ {ω : Type} (m : Machine ω) h handler params,
        call h handler command params (m.paced delay) =
          .ok (m.reply handler params) (m.called delay h handler command params) :=
      fun _ _ _ _ => rfl
    dsimp only
    rw [Action.get_bind m, Action.get_bind m', Action.bind_of_ok (hpace m),
      Action.bind_of_ok (hpace m'), Action.bind_of_ok (hcall m _ _ _),
      Action.bind_of_ok (hcall m' _ _ _), hreply, hmachines.program, ← hsame.faultTolerant]
    have hcalled := fun params => (hmachines.paced delay).withSession
      (fun session =>
        ((session.record (.called ⟨h.identity, command, params⟩)).act (handler.call params)).2)
      (fun session =>
        ((session.record (.called ⟨h'.identity, command, params⟩)).act (handler'.call params)).2)
    cases m'.reply handler' (m'.program.macros.expand params) with
    | ok result =>
        exact ((hcalled _).onSession _ _).bind fun _ _ _ _ _ h₁ => .ok rfl h₁
    | error reason =>
        dsimp only
        split
        · exact ((hcalled _).onSession _ _).bind fun _ _ _ _ _ h₁ =>
            (h₁.count _).bind fun _ _ _ _ _ h₂ => .ok rfl h₂
        · exact .error (hcalled _)

theorem dispatchDetached_related :
    Related (fun _ _ => True) (dispatchDetached handles delay line plugin command params m)
      (dispatchDetached handles' delay line plugin command params m') := by
  unfold dispatchDetached
  rcases resolve_alike halike m m' line plugin command with
    ⟨e, h, h'⟩ | ⟨h, h'⟩ | ⟨⟨h, handler⟩, ⟨h', handler'⟩, hsame, hfound, hfound'⟩
  · rw [Action.bind_of_error h, Action.bind_of_error h']
    exact .error hmachines
  · rw [Action.bind_of_ok h, Action.bind_of_ok h']
    exact .ok trivial (hmachines.withSession _ _).recovered
  · rw [Action.bind_of_ok hfound, Action.bind_of_ok hfound']
    dsimp only
    rw [Action.get_bind m, Action.get_bind m']
    exact (hmachines.count _).bind fun _ _ _ _ _ h₁ => (h₁.count _).bind fun _ _ _ _ _ h₂ =>
      (h₂.onSession _ _).bind fun _ _ _ _ _ h₃ => h₃.onSession _ _

omit halike in
theorem jump_related (place : Nat) (condition target : String) :
    Related Eq (jump place line condition target m) (jump place line condition target m') := by
  unfold jump
  rw [Action.get_bind m, Action.get_bind m', hmachines.program]
  cases Condition.evaluate (m'.program.macros.expand condition) with
  | error cause => exact .error hmachines
  | ok holds =>
      cases holds with
      | false => exact .ok rfl hmachines
      | true =>
          cases m'.program.labelIndex? target with
          | none => exact .error hmachines
          | some next =>
              exact (hmachines.count _).bind fun _ _ _ _ _ h₁ =>
                (h₁.onSession _ _).bind fun _ _ _ _ _ h₂ => .ok rfl h₂

end Command

/-! ### Answers -/

/-- What the handler replies that a visit waits for. -/
def Visit.reply? (handles : List (Handle ω)) (v : Visit ω) : Option Reply :=
  match v.step.entry with
  | .command plugin command params false | .assign plugin command params _ _ =>
    (addressee? handles plugin command).map fun (_, handler) =>
      v.machine.reply handler (v.machine.program.macros.expand params)
  | .command _ _ _ true | .jump .. | .label _ => none

/-- What the handlers have replied that an execution has waited for, in the order of the calls. -/
def answers (handles : List (Handle ω)) (visits : List (Visit ω)) : List Reply :=
  visits.filterMap (·.reply? handles)

section Visit

variable {handles : List (Handle ω)} {handles' : List (Handle ω')} {place : Nat} {s : Step}
  {m : Machine ω} {m' : Machine ω'} (halike : List.Forall₂ Handle.Alike handles handles')
  (hreply : ∀ reply reply', Visit.reply? handles ⟨place, s, m⟩ = some reply →
    Visit.reply? handles' ⟨place, s, m'⟩ = some reply' → reply = reply')
include halike hreply

/-- A visit waits for a reply on both sides, or on neither. -/
theorem reply?_eq_of_alike :
    Visit.reply? handles ⟨place, s, m⟩ = Visit.reply? handles' ⟨place, s, m'⟩ := by
  have hboth : (Visit.reply? handles ⟨place, s, m⟩).isSome =
      (Visit.reply? handles' ⟨place, s, m'⟩).isSome := by
    have hsome : ∀ plugin command, (addressee? handles plugin command).isSome =
        (addressee? handles' plugin command).isSome := by
      intro plugin command
      have hfound := addressee?_alike halike m m' plugin command
      generalize addressee? handles plugin command = found at hfound ⊢
      generalize addressee? handles' plugin command = found' at hfound ⊢
      cases hfound <;> rfl
    unfold Visit.reply?
    dsimp only
    cases s.entry with
    | command _ _ _ detached => cases detached <;> simp [hsome]
    | assign _ _ _ _ _ => simp [hsome]
    | _ => rfl
  cases h : Visit.reply? handles ⟨place, s, m⟩ <;>
    cases h' : Visit.reply? handles' ⟨place, s, m'⟩ <;> rw [h, h'] at hboth
  case some.some => rw [hreply _ _ h h']
  case none.some => cases hboth
  case some.none => cases hboth

theorem step_related (hmachines : Alike m m') (delay : Nat) :
    Related Eq (step handles delay place s m) (step handles' delay place s m') := by
  unfold step
  unfold Visit.reply? at hreply
  have hagree : ∀ plugin command params,
      (∀ reply reply',
        (addressee? handles plugin command).map (fun (_, handler) =>
          m.reply handler (m.program.macros.expand params)) = some reply →
        (addressee? handles' plugin command).map (fun (_, handler) =>
          m'.reply handler (m'.program.macros.expand params)) = some reply' → reply = reply') →
      Agree handles handles' m m' plugin command params := by
    intro plugin command params h found found' hfound hfound'
    rw [hfound, hfound'] at h
    exact h _ _ rfl rfl
  cases hentry : s.entry with
  | command plugin command params detached =>
      cases detached with
      | false =>
          simp only [hentry] at hreply
          exact (dispatch_related halike hmachines delay s.line
            (hagree _ _ _ hreply)).bind fun _ _ _ _ _ h₁ => .ok rfl h₁
      | true =>
          exact (dispatchDetached_related halike hmachines delay s.line).bind
            fun _ _ _ _ _ h₁ => .ok rfl h₁
  | assign plugin command params name last =>
      simp only [hentry] at hreply
      refine (dispatch_related halike hmachines delay s.line (hagree _ _ _ hreply)).bind ?_
      rintro result _ m₁ m₁' rfl h₁
      refine (h₁.onSession _ _).bind fun _ _ m₂ m₂' _ h₂ => ?_
      have hassigned : Related (fun _ _ => True) (assign place name result m₂)
          (assign place name result m₂') := .ok trivial (h₂.assigned place name result)
      exact hassigned.bind fun _ _ _ _ _ h₃ => .ok rfl h₃
  | jump condition target => exact jump_related hmachines s.line place condition target
  | label name => exact .ok rfl hmachines

end Visit

/-! ### Alike executions -/

section Run

variable {handles : List (Handle ω)} {handles' : List (Handle ω')} {delay : Nat}
  {start : Machine ω} {start' : Machine ω'}

/-- However far two executions have come, for as many replies as both have waited for these were
the same. -/
def AnswersAlike (handles : List (Handle ω)) (handles' : List (Handle ω')) (delay : Nat)
    (start : Machine ω) (start' : Machine ω') : Prop :=
  ∀ visits session visits' session', Visited handles delay start visits session →
    Visited handles' delay start' visits' session' →
    ∀ (k : Nat) answer answer', (answers handles visits)[k]? = some answer →
      (answers handles' visits')[k]? = some answer' → answer = answer'

/-- What a script comes to: its end, and its program and counts by then. -/
def gist (result : Ending × Machine ω) : Ending × Program × Stats :=
  (result.1, result.2.program, result.2.stats)

variable (halike : List.Forall₂ Handle.Alike handles handles')
  (hanswers : AnswersAlike handles handles' delay start start')
include halike hanswers

theorem runFrom_lockstep {visits : List (Visit ω)} {visits' : List (Visit ω')} {place : Nat}
    {m : Machine ω} {m' : Machine ω'} (hpath : Path handles delay start visits place m)
    (hpath' : Path handles' delay start' visits' place m') (hmachines : Alike m m')
    (hsame : answers handles visits = answers handles' visits') (fuel : Nat) :
    (runFrom handles delay fuel place m).map gist =
      (runFrom handles' delay fuel place m').map gist := by
  induction fuel generalizing visits visits' place m m' with
  | zero => rfl
  | succ fuel ih =>
      cases hs : m.program.steps[place]? with
      | none =>
          have hs' : m'.program.steps[place]? = none := by rw [← hmachines.program, hs]
          rw [runFrom_of_none hs, runFrom_of_none hs', hmachines.stats]
          simp [gist, noted, Machine.withSession, hmachines.program, hmachines.stats]
      | some s =>
          have hs' : m'.program.steps[place]? = some s := by rw [← hmachines.program, hs]
          have hticked := hmachines.withSession (·.tick) (·.tick)
          -- The reply is the next one on both sides.
          have hreply : ∀ reply reply',
              Visit.reply? handles ⟨place, s, m.withSession (·.tick)⟩ = some reply →
              Visit.reply? handles' ⟨place, s, m'.withSession (·.tick)⟩ = some reply' →
              reply = reply' := by
            intro reply reply' h h'
            obtain ⟨session, hvisited⟩ := hpath.visited_next hs
            obtain ⟨session', hvisited'⟩ := hpath'.visited_next hs'
            refine hanswers _ _ _ _ hvisited hvisited' (answers handles visits).length _ _ ?_ ?_
            · simp [answers, h]
            · rw [hsame]
              simp [answers, h']
          have hnext : answers handles (visits ++ [⟨place, s, m.withSession (·.tick)⟩]) =
              answers handles' (visits' ++ [⟨place, s, m'.withSession (·.tick)⟩]) := by
            have hboth := reply?_eq_of_alike halike hreply
            unfold answers at hsame ⊢
            rw [List.filterMap_append, List.filterMap_append, hsame, List.filterMap_cons,
              List.filterMap_cons, hboth]
            rfl
          have hstepped := step_related halike hreply hticked delay
          cases hstep : step handles delay place s (m.withSession (·.tick)) <;>
            cases hstep' : step handles' delay place s (m'.withSession (·.tick)) <;>
            rw [hstep, hstep'] at hstepped
          case ok.ok =>
            rw [runFrom_of_ok hs hstep, runFrom_of_ok hs' hstep']
            cases hstepped with
            | ok hresult hmachines₁ =>
                subst hresult
                exact ih (.visit hpath hs hstep) (.visit hpath' hs' hstep') hmachines₁ hnext
          case error.error =>
            rw [runFrom_of_error hs hstep, runFrom_of_error hs' hstep']
            cases hstepped with
            | error hmachines₁ =>
                simp [gist, noted, Machine.withSession, hmachines₁.program, hmachines₁.stats]
          case ok.error => cases hstepped
          case error.ok => cases hstepped

/-- Executions with alike answers end alike, or neither of them does. -/
theorem run_lockstep (hmachines : Alike start start') (fuel : Nat) :
    (start.run handles delay fuel).map gist = (start'.run handles' delay fuel).map gist :=
  runFrom_lockstep halike hanswers .start .start hmachines rfl fuel

end Run

end Machine

end RigScript
