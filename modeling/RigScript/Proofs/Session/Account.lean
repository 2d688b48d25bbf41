import RigScript.Proofs.Session.Work

/-! ## Accounts of detached work

That a task has failed shows in two places: the worker counts a failure when it happens, and whoever
waits for the task counts a crash. Here the count is held against a list of the jobs that have
returned: each job is on it once, and each failure is counted once. -/

namespace RigScript

/-- Has a command not done what it was asked? -/
def Outcome.isFailure : Outcome → Bool
  | .done _ => false
  | .failed _ | .crashed => true

/-- The number of the task that was finished, and what came of it. -/
def Event.outcome? : Event → Option (Nat × Outcome)
  | .finished serial _ outcome => some (serial, outcome)
  | _ => none

/-- The tasks that were finished, as these events have them. -/
def outcomes (events : List Event) : List (Nat × Outcome) := events.filterMap Event.outcome?

theorem outcomes_append (events more : List Event) :
    outcomes (events ++ more) = outcomes events ++ outcomes more := List.filterMap_append

theorem outcomes_eq_nil {events : List Event} (h : ∀ e ∈ events, e.outcome? = none) :
    outcomes events = [] := List.filterMap_eq_nil_iff.2 h

/-! ### The place of a task -/

namespace Pool

variable {ω : Type} {p : Pool ω} {serial : Nat} {stage : Stage} {t : Task ω}
  {returns : List (Nat × Outcome)}

theorem find?_setStage (p : Pool ω) (serial : Nat) (stage : Stage) :
    (p.setStage serial stage).find? serial = (p.find? serial).map ({ · with stage }) := by
  obtain ⟨tasks, _, _⟩ := p
  simp only [find?, setStage]
  induction tasks with
  | nil => rfl
  | cons t tasks ih =>
      by_cases hserial : t.serial = serial
      · simp [hserial]
      · rw [List.map_cons, if_neg hserial, List.find?_cons_of_neg (by simpa using hserial), ih,
          List.find?_cons_of_neg (by simpa using hserial)]

theorem remove_of_find?_eq_none (h : p.find? serial = none) : p.remove serial = p := by
  have htasks : p.tasks.filter (·.serial != serial) = p.tasks :=
    List.filter_eq_self.2 fun t ht => by simpa using List.find?_eq_none.1 h t ht
  rw [remove, htasks]

/-- A task has a place of its own, where its stage is set and from where it is removed. -/
theorem Numbered.place (hp : p.Numbered) (hfind : p.find? serial = some t) :
    ∃ before after, p.tasks = before ++ t :: after ∧
      (∀ stage, (p.setStage serial stage).tasks = before ++ { t with stage } :: after) ∧
      (p.remove serial).tasks = before ++ after ∧
      ∀ t' ∈ before ++ after, t'.serial ≠ t.serial := by
  obtain ⟨ht, rfl⟩ := mem_of_find? hfind
  obtain ⟨before, after, htasks⟩ := List.append_of_mem ht
  have hother : ∀ t' ∈ before ++ after, t'.serial ≠ t.serial := by
    have hdistinct := hp.distinct
    rw [htasks, List.map_append, List.map_cons, List.nodup_middle, ← List.map_append] at hdistinct
    intro t' ht' hserial
    exact (List.nodup_cons.1 hdistinct).1 (hserial ▸ List.mem_map_of_mem ht')
  have hsame : ∀ (stage : Stage) (part : List (Task ω)), (∀ t' ∈ part, t'.serial ≠ t.serial) →
      part.map (fun t' => if t'.serial = t.serial then { t' with stage } else t') = part := by
    intro stage part hpart
    exact (List.map_congr_left fun t' ht' => if_neg (hpart t' ht')).trans (List.map_id' part)
  have hkept : ∀ part : List (Task ω), (∀ t' ∈ part, t'.serial ≠ t.serial) →
      part.filter (·.serial != t.serial) = part :=
    fun part hpart => List.filter_eq_self.2 fun t' ht' => by simpa using hpart t' ht'
  have hbefore := fun t' ht' => hother t' (List.mem_append_left after ht')
  have hafter := fun t' ht' => hother t' (List.mem_append_right before ht')
  refine ⟨before, after, htasks, fun stage => ?_, ?_, hother⟩
  · simp only [Pool.setStage, htasks, List.map_append, List.map_cons, if_true,
      hsame stage _ hbefore, hsame stage _ hafter]
  · simp [Pool.remove, htasks, hkept _ hbefore, hkept _ hafter]

/-! ### The account -/

/-- Tasks and the jobs that have returned. Each job has returned once or is still to return, and
each failure is counted or, where a worker broke down, about to be. -/
structure Account (p : Pool ω) (returns : List (Nat × Outcome)) : Prop where
  numbered : p.Numbered
  distinct : (returns.map Prod.fst).Nodup
  known : ∀ serial, serial < p.spawned ↔
    serial ∈ returns.map Prod.fst ∨ serial ∈ p.tasks.map (·.serial)
  ended : ∀ t ∈ p.tasks, ∀ outcome, (t.serial, outcome) ∈ returns ↔ t.stage = .finished outcome
  failures : p.failures + p.tasks.countP Task.isCrashed = returns.countP (·.2.isFailure)

theorem Account.nil : Account ({} : Pool ω) [] :=
  ⟨⟨by simp, by simp⟩, by simp, by simp, by simp, rfl⟩

theorem Account.spawn {s : Session ω} (h : Account s.pool returns) (owner label : String)
    (call : Call) (job : StateM ω Outcome) :
    Account (s.spawn owner label call job).pool returns := by
  refine ⟨Session.numbered_spawn h.numbered owner label call job, h.distinct, ?_, ?_, ?_⟩
  · intro serial
    simp only [Session.spawn, List.map_append, List.map_cons, List.map_nil, List.mem_append,
      List.mem_singleton, ← or_assoc, ← h.known]
    omega
  · intro t ht outcome
    rcases List.mem_append.1 ht with ht | ht
    · exact h.ended t ht outcome
    · -- The number is new, so its job cannot have returned.
      rw [List.mem_singleton.1 ht]
      refine ⟨fun hmem => ?_, fun hover => ?_⟩
      · have hbelow := (h.known s.pool.spawned).2 (.inl (List.mem_map.2 ⟨_, hmem, rfl⟩))
        exact absurd hbelow (Nat.lt_irrefl _)
      · cases hover
  · have hfailures := h.failures
    simpa [Session.spawn, List.countP_append, Task.isCrashed] using hfailures

theorem Account.start (h : Account p returns) (hfind : p.find? serial = some t)
    (hwaiting : t.stage = .waiting) : Account (p.setStage serial .running) returns := by
  obtain ⟨before, after, htasks, hset, -, -⟩ := h.numbered.place hfind
  have hserials : (p.setStage serial .running).tasks.map (·.serial) = p.tasks.map (·.serial) :=
    map_setStage fun _ _ => rfl
  refine ⟨h.numbered.setStage, h.distinct, ?_, ?_, ?_⟩
  · intro number
    rw [hserials]
    exact h.known number
  · have hover := h.ended
    simp only [htasks, hset, List.forall_mem_append, List.forall_mem_cons] at hover ⊢
    refine ⟨hover.1, fun outcome => ?_, hover.2.2⟩
    rw [hover.2.1, hwaiting]
    simp
  · have hfailures := h.failures
    rw [htasks] at hfailures
    rw [hset]
    simpa [setStage, List.countP_append, List.countP_cons, Task.isCrashed, hwaiting]
      using hfailures

/-- A failure is counted when the worker is done or when the task is forgotten, not both times. -/
theorem shown_add_crashed (outcome : Outcome) :
    outcome.shown + (if outcome = .crashed then 1 else 0) =
      if outcome.isFailure then 1 else 0 := by
  cases outcome <;> simp [Outcome.shown, Outcome.isFailure]

theorem Account.finish (h : Account p returns) (hfind : p.find? serial = some t)
    (hrunning : t.stage = .running) (outcome : Outcome) :
    Account { p.setStage serial (.finished outcome) with failures := p.failures + outcome.shown }
      (returns ++ [(serial, outcome)]) := by
  obtain ⟨before, after, htasks, hset, -, hother⟩ := h.numbered.place hfind
  obtain ⟨ht, rfl⟩ := mem_of_find? hfind
  have hserials : (p.setStage t.serial (.finished outcome)).tasks.map (·.serial) =
      p.tasks.map (·.serial) := map_setStage fun _ _ => rfl
  -- A job that is running has not returned before.
  have hnew : t.serial ∉ returns.map Prod.fst := by
    intro hmem
    obtain ⟨⟨number, outcome⟩, hmem, rfl⟩ := List.mem_map.1 hmem
    rw [h.ended t ht, hrunning] at hmem
    cases hmem
  have hnumbered : (p.setStage t.serial (.finished outcome)).Numbered := h.numbered.setStage
  refine ⟨⟨hnumbered.distinct, hnumbered.below⟩, ?_, ?_, ?_, ?_⟩
  · rw [List.map_append]
    refine List.nodup_append.2 ⟨h.distinct, List.nodup_singleton _, ?_⟩
    intro number hmem other hother heq
    rw [heq, List.mem_singleton.1 hother] at hmem
    exact hnew hmem
  · intro number
    have hmem : t.serial ∈ p.tasks.map (·.serial) := List.mem_map_of_mem ht
    have hknown := h.known number
    simp only [hserials, List.map_append, List.map_cons, List.map_nil, List.mem_append,
      List.mem_singleton] at hknown ⊢
    refine hknown.trans ⟨fun h => h.imp_left .inl, ?_⟩
    rintro ((h | rfl) | h)
    · exact .inl h
    · exact .inr hmem
    · exact .inr h
  · have hover := h.ended
    simp only [htasks, List.forall_mem_append, List.forall_mem_cons] at hover
    simp only [hset, List.forall_mem_append, List.forall_mem_cons] at hother ⊢
    -- Of the other tasks the new return says nothing.
    have hrest : ∀ t' : Task ω, t'.serial ≠ t.serial → ∀ outcome',
        (t'.serial, outcome') ∈ returns ++ [(t.serial, outcome)] ↔
          (t'.serial, outcome') ∈ returns := by
      intro t' hne outcome'
      simp [hne]
    refine ⟨fun t' ht' outcome' => ?_, fun outcome' => ?_, fun t' ht' outcome' => ?_⟩
    · rw [hrest t' (hother.1 t' ht'), hover.1 t' ht']
    · have hrunning' := hover.2.1 outcome'
      rw [hrunning] at hrunning'
      simp [hrunning', eq_comm]
    · rw [hrest t' (hother.2 t' ht'), hover.2.2 t' ht']
  · have hfailures := h.failures
    have hcounted := shown_add_crashed outcome
    rw [htasks] at hfailures
    simp only [hset, List.countP_append, List.countP_cons, List.countP_nil, Task.isCrashed,
      hrunning, Stage.finished.injEq, decide_eq_true_eq, reduceCtorEq, decide_false,
      Bool.false_eq_true, if_false] at hfailures ⊢
    omega

/-- When a task is forgotten that is over, it is counted if its worker broke down. -/
theorem Account.drop (h : Account p returns)
    (hover : ∀ t, p.find? serial = some t → ∃ outcome, t.stage = .finished outcome) :
    Account { p.remove serial with
      failures := p.failures + ((p.find? serial).any Task.isCrashed).toNat } returns := by
  cases hfind : p.find? serial with
  | none =>
      rw [remove_of_find?_eq_none hfind]
      exact h
  | some t =>
      obtain ⟨outcome, hstage⟩ := hover t hfind
      obtain ⟨before, after, htasks, -, hremove, -⟩ := h.numbered.place hfind
      obtain ⟨ht, rfl⟩ := mem_of_find? hfind
      -- The job has returned, so its number is known without the task.
      have hreturned : t.serial ∈ returns.map Prod.fst :=
        List.mem_map.2 ⟨_, (h.ended t ht outcome).2 hstage, rfl⟩
      have hnumbered : (p.remove t.serial).Numbered := h.numbered.remove
      refine ⟨⟨hnumbered.distinct, hnumbered.below⟩, h.distinct, ?_, ?_, ?_⟩
      · intro number
        have hknown := h.known number
        simp only [htasks, hremove, List.map_append, List.map_cons, List.mem_append,
          List.mem_cons] at hknown ⊢
        refine hknown.trans ⟨?_, ?_⟩
        · rintro (h | h | rfl | h)
          · exact .inl h
          · exact .inr (.inl h)
          · exact .inl hreturned
          · exact .inr (.inr h)
        · rintro (h | h | h)
          · exact .inl h
          · exact .inr (.inl h)
          · exact .inr (.inr (.inr h))
      · have hended := h.ended
        simp only [htasks, hremove, List.forall_mem_append, List.forall_mem_cons] at hended ⊢
        exact ⟨hended.1, hended.2.2⟩
      · have hfailures := h.failures
        rw [htasks] at hfailures
        simp only [hremove, Option.any_some, List.countP_append, List.countP_cons] at hfailures ⊢
        cases hcrashed : t.isCrashed <;> simp [hcrashed] at hfailures ⊢ <;> omega

/-- With no task left, each that was handed out has returned once, and each failure is counted. -/
theorem Account.settled (h : Account p returns) (hempty : p.tasks = []) :
    (returns.map Prod.fst).Perm (List.range p.spawned) ∧
      p.failures = returns.countP (·.2.isFailure) := by
  refine ⟨(List.perm_ext_iff_of_nodup h.distinct List.nodup_range).2 fun serial => ?_, ?_⟩
  · rw [List.mem_range, h.known serial, hempty]
    simp
  · simpa [hempty] using h.failures

end Pool

namespace Session

variable {ω : Type} {s : Session ω} {serial : Nat}

/-! ### What is waited for -/

/-- Whoever waits for a task finds it over, or it is not there. -/
theorem over_of_find?_finish_start {t : Task ω}
    (hfind : ((s.start serial).finish serial).pool.find? serial = some t) :
    ∃ outcome, t.stage = .finished outcome := by
  -- Unless it has run already, the task is running once it was started.
  have hstart : ∀ t, (s.start serial).pool.find? serial = some t → t.stage ≠ .waiting := by
    have hstarted := start_started s serial
    generalize s.start serial = s₁ at hstarted
    cases hstarted with
    | idle hidle => exact hidle
    | began _ _ =>
        intro t hfind hwaiting
        rw [Pool.find?_setStage] at hfind
        obtain ⟨t', -, rfl⟩ := Option.map_eq_some_iff.1 hfind
        cases hwaiting
  generalize s.start serial = s₁ at hstart hfind
  have hfinished := finish_finished s₁ serial
  generalize s₁.finish serial = s₂ at hfinished hfind
  cases hfinished with
  | idle hidle =>
      cases hstage : t.stage with
      | waiting => exact absurd hstage (hstart t hfind)
      | running => exact absurd hstage (hidle t hfind)
      | finished outcome => exact ⟨outcome, rfl⟩
  | @ended _ outcome _ _ _ _ _ hpool =>
      have hset : (s₁.pool.setStage serial (.finished outcome)).find? serial = some t := by
        rw [hpool] at hfind
        exact hfind
      rw [Pool.find?_setStage] at hset
      obtain ⟨t', -, rfl⟩ := Option.map_eq_some_iff.1 hset
      exact ⟨outcome, rfl⟩

/-! ### What was handed out

Only the script hands out tasks. -/

theorem spawned_start (s : Session ω) (serial : Nat) :
    (s.start serial).pool.spawned = s.pool.spawned := by
  have hstarted := start_started s serial
  generalize s.start serial = s₁ at hstarted
  cases hstarted <;> rfl

theorem spawned_finish (s : Session ω) (serial : Nat) :
    (s.finish serial).pool.spawned = s.pool.spawned := by
  have hfinished := finish_finished s serial
  generalize s.finish serial = s₁ at hfinished
  cases hfinished with
  | idle _ => rfl
  | ended _ _ _ _ hpool =>
      rw [hpool]
      rfl

theorem spawned_tick (s : Session ω) : s.tick.pool.spawned = s.pool.spawned :=
  tick_induction (P := fun s₁ => s₁.pool.spawned = s.pool.spawned) (fun _ h => h)
    (fun s₁ serial h => (spawned_start s₁ serial).trans h)
    (fun s₁ serial h => (spawned_finish s₁ serial).trans h) rfl

theorem spawned_await (s : Session ω) (owner : String) (serial : Nat) :
    (s.await owner serial).pool.spawned = s.pool.spawned := by
  obtain ⟨-, -, hpool⟩ := drop_eq ((s.start serial).finish serial) owner serial
  rw [await, hpool]
  exact (spawned_finish _ serial).trans (spawned_start s serial)

theorem spawned_join (s : Session ω) (owner : String) :
    (s.join owner).pool.spawned = s.pool.spawned :=
  join_induction (P := fun s₁ => s₁.pool.spawned = s.pool.spawned)
    (fun s₁ h => (spawned_tick s₁).trans h) (fun _ _ _ h => h)
    (fun s₁ owner serial h => (spawned_await s₁ owner serial).trans h) rfl owner

theorem spawned_joinAll (s : Session ω) : s.joinAll.pool.spawned = s.pool.spawned :=
  joinAll_induction (P := fun s₁ => s₁.pool.spawned = s.pool.spawned)
    (fun s₁ owner h => (spawned_join s₁ owner).trans h) rfl

end Session

end RigScript
