import RigScript.Proofs.Session.Account

/-! ## Ledgers

The trace of a session tells everything that handlers have done to its world, so the world can be
worked out again from the trace. A ledger holds a session against its trace: the jobs that have
returned are on it with what their handlers made of the world as it was, and no other failures are
counted. The ledger is kept by whatever a script or a worker does. -/

namespace RigScript

variable {ω : Type} {handles : List (Handle ω)} {calls : List Call} {events : List Event}

/-! ### Replay -/

/-- What an event has made of the world: a handler has run, for the script or on a worker. -/
def Event.effect (handles : List (Handle ω)) (e : Event) (w : ω) : ω :=
  match e with
  | .called call =>
    match call.handler? handles with
    | some handler => ((handler.call call.params).run w).2
    | none => w
  | .finished _ call _ =>
    match call.handler? handles with
    | some handler => ((handler.job call.params).run w).2
    | none => w
  | _ => w

/-- The world after these events. -/
def replay (handles : List (Handle ω)) (events : List Event) (w : ω) : ω :=
  events.foldl (fun w e => e.effect handles w) w

@[simp] theorem replay_concat (events : List Event) (e : Event) (w : ω) :
    replay handles (events ++ [e]) w = e.effect handles (replay handles events w) := by
  simp [replay]

/-! ### Returns -/

/-- Tasks are numbered by these calls, and each of them that is finished has come to what the job
of its handler returns in the world as the events before have left it. -/
def Returned (handles : List (Handle ω)) (w : ω) (calls : List Call) (events : List Event) :
    Prop :=
  ∀ before serial call outcome, before ++ [.finished serial call outcome] <+: events →
    calls[serial]? = some call ∧ ∃ handler, call.handler? handles = some handler ∧
      ((handler.job call.params).run (replay handles before w)).1 = outcome

section Returned

variable {w : ω}

theorem Returned.nil : Returned handles w calls [] := by
  intro before serial call outcome hprefix
  simp at hprefix

/-- Only what is finished returns. -/
theorem Returned.concat (h : Returned handles w calls events) {e : Event}
    (he : e.outcome? = none) : Returned handles w calls (events ++ [e]) := by
  intro before serial call outcome hprefix
  rcases List.prefix_concat_iff.1 hprefix with heq | hprefix
  · rw [← List.singleton_injective (List.append_inj' heq rfl).2] at he
    cases he
  · exact h before serial call outcome hprefix

theorem Returned.append (h : Returned handles w calls events) {more : List Event}
    (hmore : ∀ e ∈ more, e.outcome? = none) : Returned handles w calls (events ++ more) := by
  induction more generalizing events with
  | nil => rwa [List.append_nil]
  | cons e more ih =>
      rw [List.append_cons]
      exact ih (h.concat (hmore e List.mem_cons_self)) fun e he =>
        hmore e (List.mem_cons_of_mem _ he)

theorem Returned.finished (h : Returned handles w calls events) {serial : Nat} {call : Call}
    {handler : Handler ω} (hcall : calls[serial]? = some call)
    (hhandler : call.handler? handles = some handler) :
    Returned handles w calls (events ++ [.finished serial call
      ((handler.job call.params).run (replay handles events w)).1]) := by
  intro before number call' outcome hprefix
  -- The new event comes last, after all the others.
  rcases List.prefix_concat_iff.1 hprefix with heq | hprefix
  · obtain ⟨rfl, heq⟩ := List.append_inj' heq rfl
    obtain ⟨rfl, rfl, rfl⟩ := Event.finished.inj (List.singleton_injective heq)
    exact ⟨hcall, handler, hhandler, rfl⟩
  · exact h before number call' outcome hprefix

/-- A call keeps its number when others come. -/
theorem call_append {serial : Nat} {call : Call} (hcall : calls[serial]? = some call)
    (more : List Call) : (calls ++ more)[serial]? = some call := by
  have hlt : serial < calls.length := (List.getElem?_eq_some_iff.1 hcall).1
  rw [List.getElem?_append_left hlt, hcall]

theorem Returned.handedOver (h : Returned handles w calls events) (more : List Call) :
    Returned handles w (calls ++ more) events := by
  intro before serial call outcome hprefix
  obtain ⟨hcall, hreturned⟩ := h before serial call outcome hprefix
  exact ⟨call_append hcall more, hreturned⟩

end Returned

/-! ### Ledgers -/

namespace Session

variable {s₀ s s₁ : Session ω} {serial : Nat}

/-- Since the session was `s₀` these calls were left to the workers and these events were written.
Every task does what the handler of its call has it do. -/
structure Ledger (handles : List (Handle ω)) (s₀ : Session ω) (calls : List Call)
    (events : List Event) (s : Session ω) : Prop where
  trace : s.trace = s₀.trace ++ events
  world : s.world = replay handles events s₀.world
  spawned : s.pool.spawned = calls.length
  account : s.pool.Account (outcomes events)
  tasks : ∀ t ∈ s.pool.tasks, calls[t.serial]? = some t.call ∧
    ∃ handler, t.call.handler? handles = some handler ∧ t.job = handler.job t.call.params
  returned : Returned handles s₀.world calls events

/-- There is a ledger of the session. -/
def Booked (handles : List (Handle ω)) (s₀ : Session ω) (calls : List Call) (s : Session ω) :
    Prop :=
  ∃ events, Ledger handles s₀ calls events s

/-- In a session that has not been used no job has returned. -/
theorem booked_self (hfresh : s.pool = {}) : Booked handles s [] s := by
  refine ⟨[], (List.append_nil _).symm, rfl, ?_, ?_, ?_, .nil⟩
  · rw [hfresh]
    rfl
  · rw [hfresh]
    exact .nil
  · simp [hfresh]

/-- Only the trace, the world and the tasks matter. -/
theorem Booked.congr (h : Booked handles s₀ calls s) (htrace : s₁.trace = s.trace)
    (hworld : s₁.world = s.world) (hpool : s₁.pool = s.pool) : Booked handles s₀ calls s₁ := by
  obtain ⟨events, hledger⟩ := h
  refine ⟨events, htrace.trans hledger.trace, hworld.trans hledger.world, ?_, ?_, ?_,
    hledger.returned⟩
  · rw [hpool]
    exact hledger.spawned
  · rw [hpool]
    exact hledger.account
  · rw [hpool]
    exact hledger.tasks

theorem Booked.note (h : Booked handles s₀ calls s) (severity : Severity) (text : String) :
    Booked handles s₀ calls (s.note severity text) := h.congr rfl rfl rfl

/-- What is known of tasks does not depend on their stages. -/
theorem Ledger.tasks_setStage (h : Ledger handles s₀ calls events s) {stage : Stage} {t : Task ω}
    (ht : t ∈ (s.pool.setStage serial stage).tasks) : calls[t.serial]? = some t.call ∧
      ∃ handler, t.call.handler? handles = some handler ∧ t.job = handler.job t.call.params := by
  obtain ⟨t', ht', rfl⟩ := Pool.mem_setStage_iff.1 ht
  have htask := h.tasks t' ht'
  split <;> exact htask

theorem Booked.start (h : Booked handles s₀ calls s) (serial : Nat) :
    Booked handles s₀ calls (s.start serial) := by
  obtain ⟨events, hledger⟩ := h
  have hstarted := start_started s serial
  generalize s.start serial = s₁ at hstarted
  cases hstarted with
  | idle _ => exact ⟨events, hledger⟩
  | @began t hfind hwaiting =>
      refine ⟨events ++ [.started serial t.call], ?_, ?_, hledger.spawned, ?_,
        fun _ => hledger.tasks_setStage, hledger.returned.concat rfl⟩
      · rw [record_trace, hledger.trace, List.append_assoc]
      · rw [replay_concat]
        exact hledger.world
      · rw [outcomes_append]
        exact (List.append_nil (outcomes events)).symm ▸ hledger.account.start hfind hwaiting

theorem Booked.finish (h : Booked handles s₀ calls s) (serial : Nat) :
    Booked handles s₀ calls (s.finish serial) := by
  obtain ⟨events, hledger⟩ := h
  have hfinished := finish_finished s serial
  generalize s.finish serial = s₁ at hfinished
  cases hfinished with
  | idle _ => exact ⟨events, hledger⟩
  | @ended t outcome s₁ hfind hrunning hran htrace hpool =>
      obtain ⟨ht, hserial⟩ := Pool.mem_of_find? hfind
      obtain ⟨hcall, handler, hhandler, hjob⟩ := hledger.tasks t ht
      -- It is the handler's job that ran, in the world that the events lead to.
      rw [hjob, hledger.world] at hran
      have houtcome := congrArg Prod.fst hran
      have hworld := congrArg Prod.snd hran
      dsimp only at houtcome hworld
      subst houtcome
      refine ⟨events ++ [.finished serial t.call _], ?_, ?_, ?_, ?_, ?_,
        hledger.returned.finished (hserial ▸ hcall) hhandler⟩
      · rw [htrace, hledger.trace, List.append_assoc]
      · rw [replay_concat, ← hworld, Event.effect]
        simp only [hhandler]
      · rw [hpool]
        exact hledger.spawned
      · rw [outcomes_append, hpool]
        exact hledger.account.finish hfind hrunning _
      · rw [hpool]
        exact fun _ => hledger.tasks_setStage

theorem Booked.tick (h : Booked handles s₀ calls s) : Booked handles s₀ calls s.tick :=
  tick_induction (P := Booked handles s₀ calls) (fun _ h => h.congr rfl rfl rfl)
    (fun _ _ h => h.start _) (fun _ _ h => h.finish _) h

theorem Booked.await (h : Booked handles s₀ calls s) (owner : String) (serial : Nat) :
    Booked handles s₀ calls (s.await owner serial) := by
  -- Once it was started and finished, the task is over and can be dropped.
  obtain ⟨events, hledger⟩ := (h.start serial).finish serial
  obtain ⟨htrace, hworld, hpool⟩ := drop_eq ((s.start serial).finish serial) owner serial
  refine ⟨events, htrace.trans hledger.trace, hworld.trans hledger.world, ?_, ?_, ?_,
    hledger.returned⟩
  · rw [Session.await, hpool]
    exact hledger.spawned
  · rw [Session.await, hpool]
    exact hledger.account.drop fun _ => over_of_find?_finish_start
  · rw [Session.await, hpool]
    exact fun t ht => hledger.tasks t (List.mem_of_mem_filter ht)

theorem Booked.join (h : Booked handles s₀ calls s) (owner : String) :
    Booked handles s₀ calls (s.join owner) :=
  join_induction (P := Booked handles s₀ calls) (fun _ h => h.tick) (fun _ _ _ h => h.note _ _)
    (fun _ _ _ h => h.await _ _) h owner

theorem Booked.joinAll (h : Booked handles s₀ calls s) : Booked handles s₀ calls s.joinAll :=
  joinAll_induction (P := Booked handles s₀ calls) (fun _ owner h => h.join owner) h

/-- The calls that a script waits for are in the trace. -/
theorem Booked.called (h : Booked handles s₀ calls s) {call : Call} {handler : Handler ω}
    (hhandler : call.handler? handles = some handler)
    (htrace : s₁.trace = s.trace ++ [.called call])
    (hworld : s₁.world = ((handler.call call.params).run s.world).2) (hpool : s₁.pool = s.pool) :
    Booked handles s₀ calls s₁ := by
  obtain ⟨events, hledger⟩ := h
  refine ⟨events ++ [.called call], ?_, ?_, ?_, ?_, ?_, hledger.returned.concat rfl⟩
  · rw [htrace, hledger.trace, List.append_assoc]
  · rw [replay_concat, hworld, hledger.world, Event.effect]
    simp only [hhandler]
  · rw [hpool]
    exact hledger.spawned
  · rw [outcomes_append, hpool]
    exact (List.append_nil (outcomes events)).symm ▸ hledger.account
  · rw [hpool]
    exact hledger.tasks

/-- The calls that a script leaves to the workers are numbered on. -/
theorem Booked.spawn (h : Booked handles s₀ calls s) {call : Call} {handler : Handler ω}
    (hhandler : call.handler? handles = some handler) (owner label : String) :
    Booked handles s₀ (calls ++ [call]) (s.spawn owner label call (handler.job call.params)) := by
  obtain ⟨events, hledger⟩ := h
  refine ⟨events, hledger.trace, hledger.world, ?_, hledger.account.spawn _ _ _ _, ?_,
    hledger.returned.handedOver _⟩
  · simp [Session.spawn, hledger.spawned]
  · intro t ht
    rcases List.mem_append.1 ht with ht | ht
    · obtain ⟨hcall, hjob⟩ := hledger.tasks t ht
      exact ⟨call_append hcall [call], hjob⟩
    · -- The number of the new task is that of the calls before it.
      rw [List.mem_singleton.1 ht]
      exact ⟨by simp [hledger.spawned], handler, hhandler, rfl⟩

theorem Booked.acted (h : Booked handles s₀ calls s) {called handedOver : Option Call}
    (hacted : Acted handles s called handedOver s₁) :
    Booked handles s₀ (calls ++ handedOver.toList) s₁ := by
  -- The call that is waited for is written first, as if nothing were left to the workers.
  have hcalled : Booked handles s₀ calls { s₁ with pool := s.pool } := by
    cases called with
    | none => exact h.congr (by simpa using hacted.trace) (hacted.idle rfl) rfl
    | some call =>
        obtain ⟨handler, hhandler, hworld⟩ := hacted.answered call rfl
        exact h.called hhandler hacted.trace hworld rfl
  cases handedOver with
  | none =>
      rw [Option.toList_none, List.append_nil]
      exact hcalled.congr rfl rfl (hacted.kept rfl)
  | some call =>
      obtain ⟨owner, label, handler, hhandler, hpool⟩ := hacted.spawned call rfl
      exact (hcalled.spawn hhandler owner label).congr rfl rfl hpool

/-! ### What is settled -/

/-- No task is left. Each call that was left to the workers has been finished once, and has come to
what its handler returned then; the failures are those of them that have failed or broken down. -/
structure Settled (handles : List (Handle ω)) (s₀ : Session ω) (calls : List Call)
    (events : List Event) (s : Session ω) : Prop where
  trace : s.trace = s₀.trace ++ events
  outstanding : s.pool.outstanding = 0
  spawned : s.pool.spawned = calls.length
  once : ((outcomes events).map Prod.fst).Perm (List.range calls.length)
  returned : Returned handles s₀.world calls events
  failures : s.pool.failures = (outcomes events).countP (·.2.isFailure)

theorem Booked.settled (h : Booked handles s₀ calls s) (hempty : s.pool.tasks = []) :
    ∃ events, Settled handles s₀ calls events s := by
  obtain ⟨events, hledger⟩ := h
  obtain ⟨honce, hfailures⟩ := hledger.account.settled hempty
  rw [hledger.spawned] at honce
  exact ⟨events, hledger.trace, by rw [Pool.outstanding, hempty]; rfl, hledger.spawned, honce,
    hledger.returned, hfailures⟩

/-- What is settled is not touched by events in which nothing is finished. -/
theorem Settled.adds (h : Settled handles s₀ calls events s) {more : List Event}
    (hadds : Adds s more s₁) (hmore : ∀ e ∈ more, e.outcome? = none) :
    Settled handles s₀ calls (events ++ more) s₁ where
  trace := by rw [hadds.trace, h.trace, List.append_assoc]
  outstanding := by
    rw [hadds.pool]
    exact h.outstanding
  spawned := by
    rw [hadds.pool]
    exact h.spawned
  once := by
    rw [outcomes_append, outcomes_eq_nil hmore, List.append_nil]
    exact h.once
  returned := h.returned.append hmore
  failures := by
    rw [hadds.pool, outcomes_append, outcomes_eq_nil hmore, List.append_nil]
    exact h.failures

end Session

end RigScript
