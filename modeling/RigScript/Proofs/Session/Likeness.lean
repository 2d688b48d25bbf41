import RigScript.Proofs.Session.Trace

/-! ## Sessions that are alike

Two sessions are alike if nothing that is done with plugins can tell them apart: they have the same
world, the same tasks and workers that are about to do the same, and hooks were called in the same
order. What was done to libraries and what the log says may differ. Whatever is done in sessions
that are alike, they remain so. -/

namespace RigScript

/-- The events that tell of hooks. -/
def hookEvents (events : List Event) : List Event := events.filter (·.phase?.isSome)

namespace Session

variable {ω : Type} {s s' : Session ω}

structure Like (s s' : Session ω) : Prop where
  world : s.world = s'.world
  pool : s.pool = s'.pool
  schedule : s.schedule = s'.schedule
  clock : s.clock = s'.clock
  hooks : hookEvents s.trace = hookEvents s'.trace

theorem Like.refl (s : Session ω) : Like s s := ⟨rfl, rfl, rfl, rfl, rfl⟩

theorem Like.symm (h : Like s s') : Like s' s :=
  ⟨h.world.symm, h.pool.symm, h.schedule.symm, h.clock.symm, h.hooks.symm⟩

theorem Like.record (h : Like s s') (e : Event) : Like (s.record e) (s'.record e) where
  world := h.world
  pool := h.pool
  schedule := h.schedule
  clock := h.clock
  hooks := by
    have hhooks := h.hooks
    unfold hookEvents at hhooks ⊢
    rw [record_trace, record_trace, List.filter_append, List.filter_append, hhooks]

/-- What is done to libraries is no hook. -/
theorem Like.record_right (h : Like s s') {e : Event} (he : e.phase? = none) :
    Like s (s'.record e) where
  world := h.world
  pool := h.pool
  schedule := h.schedule
  clock := h.clock
  hooks := by
    have hhooks := h.hooks
    unfold hookEvents at hhooks ⊢
    simp [he, hhooks]

theorem Like.note (h : Like s s') (severity severity' : Severity) (text text' : String) :
    Like (s.note severity text) (s'.note severity' text') :=
  ⟨h.world, h.pool, h.schedule, h.clock, h.hooks⟩

theorem Like.note_left (h : Like s s') (severity : Severity) (text : String) :
    Like (s.note severity text) s' :=
  ⟨h.world, h.pool, h.schedule, h.clock, h.hooks⟩

theorem Like.note_right (h : Like s s') (severity : Severity) (text : String) :
    Like s (s'.note severity text) :=
  ⟨h.world, h.pool, h.schedule, h.clock, h.hooks⟩

theorem Like.withPool (h : Like s s') {pool pool' : Pool ω} (hpool : pool = pool') :
    Like { s with pool } { s' with pool := pool' } :=
  ⟨h.world, hpool, h.schedule, h.clock, h.hooks⟩

theorem Like.act_fst (h : Like s s') {α : Type} (m : StateM ω α) : (s.act m).1 = (s'.act m).1 := by
  rw [act, act, h.world]
  rfl

theorem Like.act_snd (h : Like s s') {α : Type} (m : StateM ω α) :
    Like (s.act m).2 (s'.act m).2 where
  world := by
    rw [act, act, h.world]
    rfl
  pool := h.pool
  schedule := h.schedule
  clock := h.clock
  hooks := h.hooks

theorem Like.spawn (h : Like s s') (owner label : String) (call : Call) (job : StateM ω Outcome) :
    Like (s.spawn owner label call job) (s'.spawn owner label call job) := by
  unfold Session.spawn
  rw [h.pool]
  exact h.withPool rfl

/-- Where no hooks are written, none are seen. -/
theorem Adds.hookEvents_eq {events : List Event} (h : Adds s events s')
    (hquiet : ∀ e ∈ events, e.phase? = none) : hookEvents s'.trace = hookEvents s.trace := by
  have hnone : hookEvents events = [] :=
    List.filter_eq_nil_iff.2 fun e he => by simp [hquiet e he]
  unfold hookEvents at hnone ⊢
  rw [h.trace, List.filter_append, hnone, List.append_nil]

/-! ### Workers -/

theorem Like.start (h : Like s s') (serial : Nat) : Like (s.start serial) (s'.start serial) := by
  unfold Session.start
  rw [h.pool]
  cases s'.pool.find? serial with
  | none => exact h
  | some t =>
      obtain ⟨_, _, _, call, _, stage⟩ := t
      cases stage with
      | waiting => exact (h.record _).withPool rfl
      | running => exact h
      | finished outcome => exact h

theorem Like.settle (h : Like s s') (label : String) (outcome : Outcome) :
    Like (s.settle label outcome) (s'.settle label outcome) := by
  cases outcome with
  | done text => exact ⟨h.world, h.pool, h.schedule, h.clock, h.hooks⟩
  | failed reason => exact ⟨h.world, congrArg Pool.fail h.pool, h.schedule, h.clock, h.hooks⟩
  | crashed => exact h

theorem Like.finish (h : Like s s') (serial : Nat) : Like (s.finish serial) (s'.finish serial) := by
  unfold Session.finish
  rw [h.pool]
  cases s'.pool.find? serial with
  | none => exact h
  | some t =>
      obtain ⟨_, _, label, call, job, stage⟩ := t
      cases stage with
      | waiting => exact h
      | running =>
          dsimp only
          rw [h.act_fst job]
          have hrecorded := (h.act_snd job).record (.finished serial call (s'.act job).1)
          exact (hrecorded.withPool (by rw [hrecorded.pool])).settle _ _
      | finished outcome => exact h

theorem Like.tick (h : Like s s') : Like s.tick s'.tick := by
  unfold Session.tick
  rw [h.schedule, h.clock]
  apply List.foldl_rel (r := Like)
  · exact ⟨h.world, h.pool, rfl, rfl, h.hooks⟩
  intro move _ s s' h
  cases move with
  | start serial => exact h.start serial
  | finish serial => exact h.finish serial

theorem Like.drop (h : Like s s') (owner : String) (serial : Nat) :
    Like (s.drop owner serial) (s'.drop owner serial) := by
  unfold Session.drop
  dsimp only
  rw [h.pool]
  split
  · exact (h.withPool rfl).note _ _ _ _
  · exact h.withPool rfl

theorem Like.await (h : Like s s') (owner : String) (serial : Nat) :
    Like (s.await owner serial) (s'.await owner serial) :=
  ((h.start serial).finish serial).drop owner serial

theorem Like.join (h : Like s s') (owner : String) : Like (s.join owner) (s'.join owner) := by
  unfold Session.join
  dsimp only
  rw [h.tick.pool]
  split
  · exact h.tick
  · apply List.foldl_rel (r := Like) (h.tick.note _ _ _ _)
    exact fun t _ _ _ h => h.await owner t.serial

theorem Like.joinAll (h : Like s s') : Like s.joinAll s'.joinAll := by
  unfold Session.joinAll
  rw [h.pool]
  apply List.foldl_rel (r := Like) h
  exact fun owner _ _ _ h => h.join owner

end Session

end RigScript
