import Mathlib.Data.List.Nodup
import RigScript.Proofs.Session.Trace

/-! ## What workers do

Workers move at every tick, and whenever they are waited for. This file lists what a move can be,
and shows that moves leave nothing behind: of the work that a trace tells of, every task that was
started is finished or still running, and once all tasks have been waited for none is left. -/

namespace RigScript

/-! ### Pools -/

namespace Pool

variable {ω : Type} {p : Pool ω} {serial : Nat} {stage : Stage} {t : Task ω}

/-- Tasks are numbered as they come, so no two have the same number. -/
structure Numbered (p : Pool ω) : Prop where
  distinct : (p.tasks.map (·.serial)).Nodup
  below : ∀ t ∈ p.tasks, t.serial < p.spawned

theorem mem_of_find? (h : p.find? serial = some t) : t ∈ p.tasks ∧ t.serial = serial :=
  ⟨List.mem_of_find?_eq_some h, by simpa using List.find?_some h⟩

/-- In a numbered pool a task is found under its number. -/
theorem Numbered.find?_of_mem (hp : p.Numbered) (ht : t ∈ p.tasks) :
    p.find? t.serial = some t := by
  cases hfind : p.find? t.serial with
  | none => simpa using List.find?_eq_none.1 hfind t ht
  | some t' =>
      obtain ⟨ht', hserial⟩ := mem_of_find? hfind
      exact congrArg some (List.inj_on_of_nodup_map hp.distinct ht' ht hserial)

/-- What does not look at stages does not see them change. -/
theorem map_setStage {α : Type} {f : Task ω → α} (hf : ∀ t stage, f { t with stage } = f t) :
    (p.setStage serial stage).tasks.map f = p.tasks.map f := by
  simp only [setStage, List.map_map]
  refine List.map_congr_left fun t _ => ?_
  dsimp only [Function.comp_apply]
  split
  · exact hf t stage
  · rfl

/-- A task whose stage was set, or that has another number. -/
theorem mem_setStage_iff :
    t ∈ (p.setStage serial stage).tasks ↔
      ∃ t' ∈ p.tasks, t = if t'.serial = serial then { t' with stage } else t' := by
  simp only [setStage, List.mem_map, eq_comm]

theorem Numbered.setStage (hp : p.Numbered) : (p.setStage serial stage).Numbered where
  distinct := by
    rw [map_setStage fun _ _ => rfl]
    exact hp.distinct
  below := by
    intro t ht
    obtain ⟨t', ht', rfl⟩ := mem_setStage_iff.1 ht
    have hbelow := hp.below t' ht'
    split <;> exact hbelow

theorem Numbered.remove (hp : p.Numbered) : (p.remove serial).Numbered where
  distinct := hp.distinct.sublist (List.filter_sublist.map _)
  below := fun t ht => hp.below t (List.mem_of_mem_filter ht)

end Pool

/-! ### Moves -/

/-- The failures that a worker counts when it is done. That it has broken down shows later. -/
def Outcome.shown : Outcome → Nat
  | .failed _ => 1
  | .done _ | .crashed => 0

/-- The handler that a call is put to. -/
def Call.handler? (call : Call) (handles : List (Handle ω)) : Option (Handler ω) :=
  (Registry.findIn handles call.plugin.name).bind (·.commands.handler? call.command)

namespace Session

variable {ω : Type} {s : Session ω} {serial : Nat}

/-- What the start of a task can be. -/
inductive Started (s : Session ω) (serial : Nat) : Session ω → Prop where
  | idle (hidle : ∀ t, s.pool.find? serial = some t → t.stage ≠ .waiting) : Started s serial s
  | began {t : Task ω} (hfind : s.pool.find? serial = some t) (hwaiting : t.stage = .waiting) :
      Started s serial
        { s.record (.started serial t.call) with pool := s.pool.setStage serial .running }

theorem start_started (s : Session ω) (serial : Nat) : Started s serial (s.start serial) := by
  unfold start
  cases hfind : s.pool.find? serial with
  | none => exact .idle (by simp [hfind])
  | some t =>
      obtain ⟨number, owner, label, call, job, stage⟩ := t
      cases stage with
      | waiting => exact .began hfind rfl
      | _ => exact .idle (by simp [hfind])

/-- What the end of a task can be. The job has run once, in the world as it was. -/
inductive Finished (s : Session ω) (serial : Nat) : Session ω → Prop where
  | idle (hidle : ∀ t, s.pool.find? serial = some t → t.stage ≠ .running) : Finished s serial s
  | ended {t : Task ω} {outcome : Outcome} {s₁ : Session ω}
      (hfind : s.pool.find? serial = some t) (hrunning : t.stage = .running)
      (hran : t.job.run s.world = (outcome, s₁.world))
      (htrace : s₁.trace = s.trace ++ [.finished serial t.call outcome])
      (hpool : s₁.pool = { s.pool.setStage serial (.finished outcome) with
        failures := s.pool.failures + outcome.shown }) :
      Finished s serial s₁

theorem finish_finished (s : Session ω) (serial : Nat) : Finished s serial (s.finish serial) := by
  unfold finish
  cases hfind : s.pool.find? serial with
  | none => exact .idle (by simp [hfind])
  | some t =>
      obtain ⟨number, owner, label, call, job, stage⟩ := t
      cases stage with
      | running =>
          dsimp only
          cases houtcome : (s.act job).1 with
          | done text => exact .ended hfind rfl (Prod.ext houtcome rfl) rfl rfl
          | failed reason => exact .ended hfind rfl (Prod.ext houtcome rfl) rfl rfl
          | crashed => exact .ended hfind rfl (Prod.ext houtcome rfl) rfl rfl
      | _ => exact .idle (by simp [hfind])

/-- What every move keeps, a tick keeps. -/
theorem tick_induction {P : Session ω → Prop}
    (hclock : ∀ s : Session ω, P s → P { s with clock := s.clock + 1 })
    (hstart : ∀ s serial, P s → P (s.start serial))
    (hfinish : ∀ s serial, P s → P (s.finish serial)) (h : P s) : P s.tick := by
  unfold tick
  apply List.foldlRecOn (motive := P) _ _ (hclock s h)
  intro s h move _
  cases move with
  | start serial => exact hstart s serial h
  | finish serial => exact hfinish s serial h

/-- What workers keep when they move and when they are waited for, a join keeps. -/
theorem join_induction {P : Session ω → Prop} (htick : ∀ s, P s → P s.tick)
    (hnote : ∀ s severity text, P s → P (s.note severity text))
    (hawait : ∀ s owner serial, P s → P (s.await owner serial)) (h : P s) (owner : String) :
    P (s.join owner) := by
  unfold join
  dsimp only
  split
  · exact htick s h
  · apply List.foldlRecOn (motive := P) _ _ (hnote _ _ _ (htick s h))
    exact fun s h t _ => hawait s owner t.serial h

theorem joinAll_induction {P : Session ω → Prop} (hjoin : ∀ s owner, P s → P (s.join owner))
    (h : P s) : P s.joinAll := by
  apply List.foldlRecOn (motive := P) _ _ h
  exact fun s h owner _ => hjoin s owner h

/-! ### What a script does

A script calls handlers, one at a time, and leaves calls to the workers. -/

/-- From one session to another the script made a call and waited for it, or left a call to the
workers, or neither. The calls are put to handlers of these plugins. -/
structure Acted (handles : List (Handle ω)) (s : Session ω) (called handedOver : Option Call)
    (s₁ : Session ω) : Prop where
  trace : s₁.trace = s.trace ++ called.toList.map .called
  idle : called = none → s₁.world = s.world
  answered : ∀ call, called = some call → ∃ handler, call.handler? handles = some handler ∧
    s₁.world = ((handler.call call.params).run s.world).2
  kept : handedOver = none → s₁.pool = s.pool
  spawned : ∀ call, handedOver = some call → ∃ owner label handler,
    call.handler? handles = some handler ∧
      s₁.pool = (s.spawn owner label call (handler.job call.params)).pool

variable {handles : List (Handle ω)} {call : Call} {handler : Handler ω}

theorem Acted.nothing {s₁ : Session ω} (htrace : s₁.trace = s.trace) (hworld : s₁.world = s.world)
    (hpool : s₁.pool = s.pool) : Acted handles s none none s₁ where
  trace := by simpa using htrace
  idle _ := hworld
  answered := by simp
  kept _ := hpool
  spawned := by simp

theorem Acted.calling {s₁ : Session ω} (hhandler : call.handler? handles = some handler)
    (htrace : s₁.trace = s.trace ++ [.called call])
    (hworld : s₁.world = ((handler.call call.params).run s.world).2) (hpool : s₁.pool = s.pool) :
    Acted handles s (some call) none s₁ where
  trace := htrace
  idle := by simp
  answered := by
    rintro _ ⟨⟩
    exact ⟨handler, hhandler, hworld⟩
  kept _ := hpool
  spawned := by simp

theorem Acted.handingOver {owner label : String} {s₁ : Session ω}
    (hhandler : call.handler? handles = some handler) (htrace : s₁.trace = s.trace)
    (hworld : s₁.world = s.world)
    (hpool : s₁.pool = (s.spawn owner label call (handler.job call.params)).pool) :
    Acted handles s none (some call) s₁ where
  trace := by simpa using htrace
  idle _ := hworld
  answered := by simp
  kept := by simp
  spawned := by
    rintro _ ⟨⟩
    exact ⟨owner, label, handler, hhandler, hpool⟩

/-! ### Calls

Workers move tasks on, but they make no calls of their own and the script's calls are not theirs. -/

/-- The calls that were left to the workers and not waited for yet. -/
def entrusted (s : Session ω) : List Call := s.pool.tasks.map (·.call)

theorem calls_tick (s : Session ω) : s.tick.calls = s.calls := by
  refine tick_induction (P := fun s₁ => s₁.calls = s.calls) (fun _ h => h) ?_ ?_ rfl
  · intro s₁ serial h
    have hstarted := start_started s₁ serial
    generalize s₁.start serial = s₂ at hstarted
    cases hstarted with
    | idle _ => exact h
    | began _ _ => exact List.filterMap_append.trans ((List.append_nil _).trans h)
  · intro s₁ serial h
    have hfinished := finish_finished s₁ serial
    generalize s₁.finish serial = s₂ at hfinished
    cases hfinished with
    | idle _ => exact h
    | ended _ _ _ htrace _ =>
        rw [calls, htrace]
        exact List.filterMap_append.trans ((List.append_nil _).trans h)

theorem entrusted_tick (s : Session ω) : s.tick.entrusted = s.entrusted := by
  refine tick_induction (P := fun s₁ => s₁.entrusted = s.entrusted) (fun _ h => h) ?_ ?_ rfl
  · intro s₁ serial h
    have hstarted := start_started s₁ serial
    generalize s₁.start serial = s₂ at hstarted
    cases hstarted with
    | idle _ => exact h
    | began _ _ => exact (Pool.map_setStage fun _ _ => rfl).trans h
  · intro s₁ serial h
    have hfinished := finish_finished s₁ serial
    generalize s₁.finish serial = s₂ at hfinished
    cases hfinished with
    | idle _ => exact h
    | @ended _ outcome _ _ _ _ _ hpool =>
        have htasks : s₂.pool.tasks = (s₁.pool.setStage serial (.finished outcome)).tasks := by
          rw [hpool]
        rw [entrusted, htasks]
        exact (Pool.map_setStage fun _ _ => rfl).trans h

theorem Acted.calls_eq {called handedOver : Option Call} {s₁ : Session ω}
    (h : Acted handles s called handedOver s₁) : s₁.calls = s.calls ++ called.toList := by
  rw [calls, h.trace, List.filterMap_append]
  cases called <;> rfl

theorem Acted.entrusted_eq {called handedOver : Option Call} {s₁ : Session ω}
    (h : Acted handles s called handedOver s₁) :
    s₁.entrusted = s.entrusted ++ handedOver.toList := by
  cases handedOver with
  | none => simp [entrusted, h.kept rfl]
  | some call =>
      obtain ⟨owner, label, handler, -, hpool⟩ := h.spawned call rfl
      simp [entrusted, hpool, Session.spawn]

/-! ### Sessions without tasks -/

theorem Adds.tick (h : s.pool.tasks = []) : Adds s [] s.tick := by
  refine tick_induction (P := Adds s []) (fun s₁ h₁ => ⟨h₁.trace, h₁.pool⟩) ?_ ?_ (.refl s)
  · intro s₁ serial h₁
    have hnone : s₁.pool.find? serial = none := by simp [Pool.find?, h₁.pool, h]
    have hstarted := start_started s₁ serial
    generalize s₁.start serial = s₂ at hstarted
    cases hstarted with
    | idle _ => exact h₁
    | began hfind _ => simp [hnone] at hfind
  · intro s₁ serial h₁
    have hnone : s₁.pool.find? serial = none := by simp [Pool.find?, h₁.pool, h]
    have hfinished := finish_finished s₁ serial
    generalize s₁.finish serial = s₂ at hfinished
    cases hfinished with
    | idle _ => exact h₁
    | ended hfind _ _ _ _ => simp [hnone] at hfind

theorem Adds.join (h : s.pool.tasks = []) (owner : String) : Adds s [] (s.join owner) := by
  have htick := Adds.tick h
  unfold Session.join
  simp only [htick.pool, h, List.filter_nil, List.isEmpty_nil, if_true]
  exact htick

/-- Where there are no tasks, nothing is left to wait for. -/
theorem joinAll_eq_self (h : s.pool.tasks = []) : s.joinAll = s := by
  simp [joinAll, Pool.owners, h]

/-! ### Waiting -/

/-- Tasks of one session that go back to tasks of an earlier one. -/
def Keeps (s s₁ : Session ω) : Prop :=
  ∀ t₁ ∈ s₁.pool.tasks, ∃ t ∈ s.pool.tasks, t.serial = t₁.serial ∧ t.owner = t₁.owner

theorem Keeps.refl (s : Session ω) : Keeps s s := fun t ht => ⟨t, ht, rfl, rfl⟩

theorem Keeps.trans {s₁ s₂ : Session ω} (h : Keeps s s₁) (h₁ : Keeps s₁ s₂) : Keeps s s₂ := by
  intro t₂ ht₂
  obtain ⟨t₁, ht₁, hserial₁, howner₁⟩ := h₁ t₂ ht₂
  obtain ⟨t, ht, hserial, howner⟩ := h t₁ ht₁
  exact ⟨t, ht, hserial.trans hserial₁, howner.trans howner₁⟩

theorem Keeps.setStage (s : Session ω) {s₁ : Session ω} {stage : Stage}
    (htasks : s₁.pool.tasks = (s.pool.setStage serial stage).tasks) : Keeps s s₁ := by
  intro t₁ ht₁
  rw [htasks] at ht₁
  obtain ⟨t, ht, rfl⟩ := Pool.mem_setStage_iff.1 ht₁
  refine ⟨t, ht, ?_⟩
  split <;> exact ⟨rfl, rfl⟩

theorem keeps_start (s : Session ω) (serial : Nat) : Keeps s (s.start serial) := by
  have hstarted := start_started s serial
  generalize s.start serial = s₁ at hstarted
  cases hstarted with
  | idle _ => exact .refl s
  | began _ _ => exact .setStage s rfl

theorem keeps_finish (s : Session ω) (serial : Nat) : Keeps s (s.finish serial) := by
  have hfinished := finish_finished s serial
  generalize s.finish serial = s₁ at hfinished
  cases hfinished with
  | idle _ => exact .refl s
  | @ended _ outcome s₁ _ _ _ _ hpool =>
      have htasks : s₁.pool.tasks = (s.pool.setStage serial (.finished outcome)).tasks := by
        rw [hpool]
      exact .setStage s htasks

theorem keeps_tick (s : Session ω) : Keeps s s.tick :=
  tick_induction (P := Keeps s) (fun _ h => h) (fun s₁ serial h => h.trans (keeps_start s₁ serial))
    (fun s₁ serial h => h.trans (keeps_finish s₁ serial)) (.refl s)

/-- What remains of a session when a task is forgotten. -/
theorem drop_eq (s : Session ω) (owner : String) (serial : Nat) :
    (s.drop owner serial).trace = s.trace ∧ (s.drop owner serial).world = s.world ∧
    (s.drop owner serial).pool = { s.pool.remove serial with
      failures := s.pool.failures + ((s.pool.find? serial).any Task.isCrashed).toNat } := by
  unfold drop
  dsimp only
  split
  · rename_i hcrashed
    rw [hcrashed]
    exact ⟨rfl, rfl, rfl⟩
  · rename_i hfine
    rw [Bool.not_eq_true] at hfine
    rw [hfine]
    exact ⟨rfl, rfl, rfl⟩

theorem keeps_await (s : Session ω) (owner : String) (serial : Nat) :
    Keeps s (s.await owner serial) := by
  intro t ht
  obtain ⟨-, -, hpool⟩ := drop_eq ((s.start serial).finish serial) owner serial
  rw [await, hpool] at ht
  exact (keeps_start s serial).trans (keeps_finish _ serial) t (List.mem_of_mem_filter ht)

theorem serial_ne_of_await {owner : String} {t : Task ω}
    (ht : t ∈ (s.await owner serial).pool.tasks) : t.serial ≠ serial := by
  obtain ⟨-, -, hpool⟩ := drop_eq ((s.start serial).finish serial) owner serial
  rw [await, hpool] at ht
  simpa using (List.mem_filter.1 ht).2

/-- Of tasks that are waited for one after the other none is left. -/
theorem awaitEach_tasks (owner : String) (mine : List (Task ω)) (s : Session ω) :
    Keeps s (mine.foldl (fun s t => s.await owner t.serial) s) ∧
    ∀ t ∈ (mine.foldl (fun s t => s.await owner t.serial) s).pool.tasks,
      t.serial ∉ mine.map (·.serial) := by
  induction mine generalizing s with
  | nil => exact ⟨.refl s, by simp⟩
  | cons t₀ mine ih =>
      obtain ⟨hkeeps, hgone⟩ := ih (s.await owner t₀.serial)
      refine ⟨(keeps_await s owner t₀.serial).trans hkeeps, ?_⟩
      intro t ht
      rw [List.map_cons, List.mem_cons, not_or]
      refine ⟨?_, hgone t ht⟩
      -- The task had another number when the first one was forgotten, and numbers do not change.
      obtain ⟨t₁, ht₁, hserial, -⟩ := hkeeps t ht
      rw [← hserial]
      exact serial_ne_of_await ht₁

theorem join_tasks (s : Session ω) (owner : String) :
    Keeps s (s.join owner) ∧ ∀ t ∈ (s.join owner).pool.tasks, t.owner ≠ owner := by
  have htick := keeps_tick s
  unfold join
  dsimp only
  split
  · rename_i hnone
    refine ⟨htick, fun t ht howner => ?_⟩
    rw [List.isEmpty_iff, List.filter_eq_nil_iff] at hnone
    exact hnone t ht (by simpa using howner)
  · obtain ⟨hkeeps, hgone⟩ := awaitEach_tasks owner
      (s.tick.pool.tasks.filter (·.owner == owner)) (s.tick.note .debug _)
    refine ⟨htick.trans hkeeps, fun t ht howner => hgone t ht ?_⟩
    obtain ⟨t₁, ht₁, hserial, howner₁⟩ := hkeeps t ht
    refine List.mem_map.2 ⟨t₁, List.mem_filter.2 ⟨ht₁, ?_⟩, hserial⟩
    simpa using howner₁.trans howner

/-- Once everybody has been waited for, no task is left. -/
theorem joinAll_tasks (s : Session ω) : s.joinAll.pool.tasks = [] := by
  have hjoined : ∀ (owners : List String) (s : Session ω), Keeps s (owners.foldl Session.join s) ∧
      ∀ t ∈ (owners.foldl Session.join s).pool.tasks, t.owner ∉ owners := by
    intro owners
    induction owners with
    | nil => exact fun s => ⟨.refl s, by simp⟩
    | cons owner owners ih =>
        intro s
        obtain ⟨hkeeps, hgone⟩ := ih (s.join owner)
        obtain ⟨hjoin, hother⟩ := join_tasks s owner
        refine ⟨hjoin.trans hkeeps, fun t ht => ?_⟩
        rw [List.mem_cons, not_or]
        refine ⟨?_, hgone t ht⟩
        obtain ⟨t₁, ht₁, -, howner⟩ := hkeeps t ht
        exact howner ▸ hother t₁ ht₁
  obtain ⟨hkeeps, hgone⟩ := hjoined s.pool.owners s
  refine List.eq_nil_iff_forall_not_mem.2 fun t ht => hgone t ht ?_
  obtain ⟨t₁, ht₁, -, howner⟩ := hkeeps t ht
  exact List.mem_eraseDups.2 (List.mem_map.2 ⟨t₁, ht₁, howner⟩)

/-! ### Work done -/

/-- Events of work, and the tasks that they leave. A task that was started is finished or running
still. -/
structure Worked (pool : Pool ω) (events : List Event) : Prop where
  numbered : pool.Numbered
  work : ∀ e ∈ events, e.phase? = some .running
  settled : ∀ serial call, .started serial call ∈ events →
    (∃ outcome, .finished serial call outcome ∈ events) ∨
      ∃ t ∈ pool.tasks, t.serial = serial ∧ t.call = call ∧ t.stage = .running

/-- Since the trace was `base`, nothing but work has been done. -/
def Working (base : List Event) (s : Session ω) : Prop :=
  ∃ events, s.trace = base ++ events ∧ Worked s.pool events

variable {base : List Event}

/-- No work has been done in a session without tasks. -/
theorem working_self (h : s.pool.tasks = []) : Working s.trace s :=
  ⟨[], (List.append_nil _).symm, ⟨by simp [h], by simp [h]⟩, by simp, by simp⟩

/-- Only the trace and the tasks matter. -/
theorem Working.congr {s₁ : Session ω} (h : Working base s) (htrace : s₁.trace = s.trace)
    (htasks : s₁.pool.tasks = s.pool.tasks) (hspawned : s₁.pool.spawned = s.pool.spawned) :
    Working base s₁ := by
  obtain ⟨events, hevents, hworked⟩ := h
  refine ⟨events, htrace.trans hevents, ⟨?_, ?_⟩, hworked.work, ?_⟩
  · rw [htasks]
    exact hworked.numbered.distinct
  · rw [htasks, hspawned]
    exact hworked.numbered.below
  · rw [htasks]
    exact hworked.settled

theorem Working.note (h : Working base s) (severity : Severity) (text : String) :
    Working base (s.note severity text) := h.congr rfl rfl rfl

theorem Working.called (h : Working base s) (call : Call) :
    Working base (s.record (.called call)) := by
  obtain ⟨events, hevents, hworked⟩ := h
  refine ⟨events ++ [.called call], ?_, hworked.numbered, ?_, ?_⟩
  · rw [record_trace, hevents, List.append_assoc]
  · simpa [or_imp, forall_and, Event.phase?] using hworked.work
  · simpa using hworked.settled

/-- A new number is above all others. -/
theorem numbered_spawn (h : s.pool.Numbered) (owner label : String) (call : Call)
    (job : StateM ω Outcome) : (s.spawn owner label call job).pool.Numbered where
  distinct := by
    simp only [Session.spawn, List.map_append, List.map_cons, List.map_nil]
    refine List.nodup_append.2 ⟨h.distinct, List.nodup_singleton _, ?_⟩
    intro serial hserial other hother
    obtain ⟨t, ht, rfl⟩ := List.mem_map.1 hserial
    rw [List.mem_singleton.1 hother]
    exact Nat.ne_of_lt (h.below t ht)
  below := by
    intro t ht
    rcases List.mem_append.1 ht with ht | ht
    · exact Nat.lt_succ_of_lt (h.below t ht)
    · rw [List.mem_singleton.1 ht]
      exact Nat.lt_succ_self _

theorem Working.spawn (h : Working base s) (owner label : String) (call : Call)
    (job : StateM ω Outcome) : Working base (s.spawn owner label call job) := by
  obtain ⟨events, hevents, hworked⟩ := h
  refine ⟨events, hevents, numbered_spawn hworked.numbered owner label call job, hworked.work, ?_⟩
  · intro serial call' hstarted
    rcases hworked.settled serial call' hstarted with hfinished | ⟨t, ht, hrunning⟩
    · exact .inl hfinished
    · exact .inr ⟨t, List.mem_append_left _ ht, hrunning⟩

/-- What a script does is work. -/
theorem Working.acted (h : Working base s) {called handedOver : Option Call} {s₁ : Session ω}
    (hacted : Acted handles s called handedOver s₁) : Working base s₁ := by
  -- The call that is waited for is written first, as if nothing were left to the workers.
  have hcalled : Working base { s₁ with pool := s.pool } := by
    cases called with
    | none => exact h.congr (by simpa using hacted.trace) rfl rfl
    | some call => exact (h.called call).congr (by simpa using hacted.trace) rfl rfl
  cases handedOver with
  | none =>
      have hpool := hacted.kept rfl
      exact hcalled.congr rfl (by rw [hpool]) (by rw [hpool])
  | some call =>
      obtain ⟨owner, label, handler, -, hpool⟩ := hacted.spawned call rfl
      exact (hcalled.spawn owner label call _).congr rfl (by rw [hpool]; rfl) (by rw [hpool]; rfl)

theorem Working.start (h : Working base s) (serial : Nat) : Working base (s.start serial) := by
  obtain ⟨events, hevents, hworked⟩ := h
  have hstarted := start_started s serial
  generalize s.start serial = s₁ at hstarted
  cases hstarted with
  | idle _ => exact ⟨events, hevents, hworked⟩
  | @began t hfind _ =>
      refine ⟨events ++ [.started serial t.call], ?_, hworked.numbered.setStage, ?_, ?_⟩
      · simp [hevents]
      · simpa [or_imp, forall_and, Event.phase?] using hworked.work
      · intro number call hmem
        -- Setting a stage to running leaves running tasks as they are.
        have hrunning : ∀ t' ∈ s.pool.tasks, t'.serial = number → t'.call = call →
            t'.stage = .running ∨ t'.serial = serial →
            ∃ t₁ ∈ (s.pool.setStage serial .running).tasks,
              t₁.serial = number ∧ t₁.call = call ∧ t₁.stage = .running := by
          intro t' ht' hnumber hcall hstage
          refine ⟨_, Pool.mem_setStage_iff.2 ⟨t', ht', rfl⟩, ?_⟩
          split
          · exact ⟨hnumber, hcall, rfl⟩
          · rename_i hother
            exact ⟨hnumber, hcall, hstage.resolve_right hother⟩
        rcases List.mem_append.1 hmem with hmem | hmem
        · rcases hworked.settled number call hmem with
            ⟨outcome, hfinished⟩ | ⟨t', ht', hnumber, hcall, hstage⟩
          · exact .inl ⟨outcome, List.mem_append_left _ hfinished⟩
          · exact .inr (hrunning t' ht' hnumber hcall (.inl hstage))
        · obtain ⟨rfl, rfl⟩ := Event.started.inj (List.mem_singleton.1 hmem)
          obtain ⟨ht, hserial⟩ := Pool.mem_of_find? hfind
          exact .inr (hrunning t ht hserial rfl (.inr hserial))

theorem Working.finish (h : Working base s) (serial : Nat) : Working base (s.finish serial) := by
  obtain ⟨events, hevents, hworked⟩ := h
  have hfinished := finish_finished s serial
  generalize s.finish serial = s₁ at hfinished
  cases hfinished with
  | idle _ => exact ⟨events, hevents, hworked⟩
  | @ended t outcome _ hfind _ _ htrace hpool =>
      have hnumbered : (s.pool.setStage serial (.finished outcome)).Numbered :=
        hworked.numbered.setStage
      refine ⟨events ++ [.finished serial t.call outcome], ?_, ?_, ?_, ?_⟩
      · rw [htrace, hevents, List.append_assoc]
      · rw [hpool]
        exact ⟨hnumbered.distinct, hnumbered.below⟩
      · simpa [or_imp, forall_and, Event.phase?] using hworked.work
      · intro number call hmem
        have hmem : .started number call ∈ events := by simpa using hmem
        rcases hworked.settled number call hmem with
          ⟨outcome', hdone⟩ | ⟨t', ht', rfl, rfl, hstage⟩
        · exact .inl ⟨outcome', List.mem_append_left _ hdone⟩
        · by_cases hserial : t'.serial = serial
          · -- The task that is finished is the one that was found.
            have hfound := hworked.numbered.find?_of_mem ht'
            rw [hserial, hfind] at hfound
            obtain rfl := Option.some.inj hfound
            rw [hserial]
            exact .inl ⟨outcome, List.mem_append_right _ List.mem_cons_self⟩
          · refine .inr ⟨t', ?_, rfl, rfl, hstage⟩
            rw [hpool]
            exact Pool.mem_setStage_iff.2 ⟨t', ht', by rw [if_neg hserial]⟩

theorem Working.tick (h : Working base s) : Working base s.tick :=
  tick_induction (P := Working base) (fun _ h => h.congr rfl rfl rfl) (fun _ _ h => h.start _)
    (fun _ _ h => h.finish _) h

/-- A task that was to be finished is not running any more. -/
theorem stage_ne_running_of_finish (hnumbered : s.pool.Numbered) {t : Task ω}
    (ht : t ∈ (s.finish serial).pool.tasks) (hserial : t.serial = serial) :
    t.stage ≠ .running := by
  have hfinished := finish_finished s serial
  generalize s.finish serial = s₁ at hfinished ht
  cases hfinished with
  | idle hidle =>
      subst hserial
      exact hidle t (hnumbered.find?_of_mem ht)
  | @ended _ outcome _ _ _ _ _ hpool =>
      have ht : t ∈ (s.pool.setStage serial (.finished outcome)).tasks := by simpa [hpool] using ht
      obtain ⟨t', -, rfl⟩ := Pool.mem_setStage_iff.1 ht
      split at hserial
      · rename_i h
        simp [h]
      · contradiction

theorem Working.await (h : Working base s) (owner : String) (serial : Nat) :
    Working base (s.await owner serial) := by
  have hstarted : Working base (s.start serial) := h.start serial
  obtain ⟨events, hevents, hworked⟩ := hstarted.finish serial
  obtain ⟨-, -, hnumbered, -, -⟩ := hstarted
  obtain ⟨htrace, -, hpool⟩ := drop_eq ((s.start serial).finish serial) owner serial
  refine ⟨events, htrace.trans hevents, ?_, hworked.work, ?_⟩
  · rw [Session.await, hpool]
    exact ⟨hworked.numbered.remove.distinct, hworked.numbered.remove.below⟩
  · intro number call hmem
    rcases hworked.settled number call hmem with hdone | ⟨t, ht, rfl, rfl, hstage⟩
    · exact .inl hdone
    · refine .inr ⟨t, ?_, rfl, rfl, hstage⟩
      rw [Session.await, hpool]
      refine List.mem_filter.2 ⟨ht, ?_⟩
      have hne : t.serial ≠ serial := fun hserial =>
        stage_ne_running_of_finish hnumbered ht hserial hstage
      simpa using hne

theorem Working.join (h : Working base s) (owner : String) : Working base (s.join owner) :=
  join_induction (P := Working base) (fun _ h => h.tick) (fun _ _ _ h => h.note _ _)
    (fun _ _ _ h => h.await _ _) h owner

theorem Working.joinAll (h : Working base s) : Working base s.joinAll :=
  joinAll_induction (P := Working base) (fun _ owner h => h.join owner) h

/-- When everybody has been waited for, whatever was started is finished. -/
theorem Working.finished_of_joinAll (h : Working base s) :
    ∃ events, s.joinAll.trace = base ++ events ∧ (∀ e ∈ events, e.phase? = some .running) ∧
      ∀ serial call, .started serial call ∈ events →
        ∃ outcome, .finished serial call outcome ∈ events := by
  obtain ⟨events, hevents, hworked⟩ := h.joinAll
  refine ⟨events, hevents, hworked.work, fun serial call hstarted => ?_⟩
  rcases hworked.settled serial call hstarted with hfinished | ⟨t, ht, -⟩
  · exact hfinished
  · rw [joinAll_tasks] at ht
    cases ht

end Session

end RigScript
