import RigScript.Proofs.Execution.Path
import RigScript.Proofs.Session.Account

/-! ## Tallies

An execution counts as it goes. Its counts are compared here with the visits that it has made, and
these say for themselves what they were: a call that was waited for or left to the workers, a
command that was skipped, a failure that the script went on after, a jump that was taken. -/

namespace RigScript

variable {ω : Type}

/-- The counts after a visit that did these things. -/
def Stats.book (stats : Stats) (delay : Nat) (called handedOver skipped forgiven jumped : Bool) :
    Stats :=
  let runs := called.toNat + handedOver.toNat
  { executed := stats.executed + runs
    jumps := stats.jumps + jumped.toNat
    recovered := stats.recovered + skipped.toNat + forgiven.toNat
    detached := stats.detached + handedOver.toNat
    pauses := if stats.executed = 0 || delay = 0 then stats.pauses else stats.pauses + runs }

namespace Machine

/-! ### What is counted -/

section Command

variable (handles : List (Handle ω)) (m : Machine ω) (plugin command params : String)

/-- The plugin is fault tolerant and lacks the command. -/
def lacks : Bool :=
  (Registry.findIn handles plugin).any fun h => h.faultTolerant && !h.commands.contains command

/-- The command is put to a handler of a plugin that is fault tolerant, and it fails. -/
def forgiven : Bool :=
  (addressee? handles plugin command).any fun (h, handler) =>
    match m.reply handler (m.program.macros.expand params) with
    | .ok _ => false
    | .error _ => h.faultTolerant

/-- The condition holds, and the label is there. -/
def leads (m : Machine ω) (condition target : String) : Bool :=
  match Condition.evaluate (m.program.macros.expand condition) with
  | .ok holds => holds && (m.program.labelIndex? target).isSome
  | .error _ => false

end Command

namespace Visit

variable (handles : List (Handle ω)) (v : Visit ω)

/-- The command of the visit is skipped. -/
def skips : Bool := v.step.entry.target?.any fun (plugin, command) => lacks handles plugin command

/-- The visit waits for a command that fails, and the script goes on. -/
def forgives : Bool :=
  match v.step.entry with
  | .command plugin command params false | .assign plugin command params _ _ =>
    forgiven handles v.machine plugin command params
  | .command _ _ _ true | .jump .. | .label _ => false

/-- The visit takes a jump. -/
def leaps : Bool :=
  match v.step.entry with
  | .jump condition target => v.machine.leads condition target
  | .command .. | .assign .. | .label _ => false

end Visit

/-- The counts that an account of the visits comes to. -/
def tally (handles : List (Handle ω)) (delay : Nat) (visits : List (Visit ω)) : Stats :=
  let detached := visits.countP (·.handedOver? handles |>.isSome)
  let executed := visits.countP (·.called? handles |>.isSome) + detached
  { executed
    jumps := visits.countP (·.leaps)
    recovered := visits.countP (·.skips handles) + visits.countP (·.forgives handles)
    detached
    pauses := if delay = 0 then 0 else executed - 1 }

variable {handles : List (Handle ω)} {delay line place : Nat} {start m : Machine ω} {s : Step}
  {plugin command params : String} {visits earlier : List (Visit ω)} {ending : Ending}

@[simp] theorem tally_nil : tally handles delay [] = {} := by simp [tally]

/-! ### One visit -/

variable (handles delay) in
/-- The counts after one more visit. -/
def Visit.book (v : Visit ω) (stats : Stats) : Stats :=
  stats.book delay (v.called? handles).isSome (v.handedOver? handles).isSome (v.skips handles)
    (v.forgives handles) v.leaps

/-- A visit makes one call at most. -/
theorem Visit.runs_le_one (handles : List (Handle ω)) (v : Visit ω) :
    (v.called? handles).isSome.toNat + (v.handedOver? handles).isSome.toNat ≤ 1 := by
  unfold called? handedOver?
  cases v.step.entry with
  | command _ _ _ detached => cases detached <;> simp [Bool.toNat_le]
  | _ => simp [Bool.toNat_le]

/-- An account is kept visit by visit. -/
theorem tally_concat (visits : List (Visit ω)) (v : Visit ω) :
    tally handles delay (visits ++ [v]) = v.book handles delay (tally handles delay visits) := by
  have hcount : ∀ p : Visit ω → Bool,
      (visits ++ [v]).countP p = visits.countP p + (p v).toNat := by
    intro p
    cases hp : p v <;> simp [List.countP_append, hp]
  have hruns := v.runs_le_one handles
  simp only [tally, Visit.book, Stats.book, hcount, Stats.mk.injEq]
  generalize (v.called? handles).isSome.toNat = called at hruns
  generalize (v.handedOver? handles).isSome.toNat = handedOver at hruns
  refine ⟨by omega, trivial, by omega, trivial, ?_⟩
  by_cases hdelay : delay = 0
  · simp [hdelay]
  · simp only [hdelay, if_false, decide_false, Bool.or_false]
    split
    case isTrue hfirst =>
      have hnone := of_decide_eq_true hfirst
      omega
    case isFalse hlater =>
      have hsome := of_decide_eq_false (Bool.not_eq_true _ ▸ hlater)
      omega

/-! ### One step -/

theorem Resolved.lacks_eq
    {result : EStateM.Result ExecError (Machine ω) (Option (Handle ω × Handler ω))}
    (h : Resolved handles line plugin command m result) :
    lacks handles plugin command =
      match result with
      | .ok addressee _ => addressee.isNone
      | .error _ _ => false := by
  unfold lacks
  cases h with
  | unknown hfind => simp [hfind]
  | skipped hfind hhandler htolerant =>
      simp [hfind, CommandTable.contains_eq_isSome, hhandler, htolerant]
  | unsupported hfind _ hstrict => simp [hfind, hstrict]
  | notReady hfind _ hstrict _ => simp [hfind, hstrict]
  | found hfind hhandler _ => simp [hfind, CommandTable.contains_eq_isSome, hhandler]

/-- A command that is not put to a handler is at most skipped. -/
theorem Resolved.stats_of_none
    {result : EStateM.Result ExecError (Machine ω) (Option (Handle ω × Handler ω))}
    (h : Resolved handles line plugin command m result)
    (hnone : addressee? handles plugin command = none) :
    (Action.state result).stats =
      m.stats.book delay false false (lacks handles plugin command) false false := by
  rw [h.lacks_eq]
  cases h with
  | found hfind hhandler hready => simp [addressee?, hfind, hhandler, hready] at hnone
  | _ => simp [Stats.book, Action.state] <;> rfl

theorem forgiven_eq {h : Handle ω} {handler : Handler ω} {expanded : String}
    (hfound : addressee? handles plugin command = some (h, handler))
    (hexpanded : expanded = m.program.macros.expand params) :
    forgiven handles m plugin command params =
      match m.reply handler expanded with
      | .ok _ => false
      | .error _ => h.faultTolerant := by
  simp [forgiven, hfound, hexpanded]

/-- What a command that the script waits for adds to the counts. -/
theorem Dispatched.stats {result : EStateM.Result ExecError (Machine ω) String}
    (h : Dispatched handles line plugin command m delay params result) :
    (Action.state result).stats =
      m.stats.book delay (makes? handles m plugin command params).isSome false
        (lacks handles plugin command) (forgiven handles m plugin command params) false := by
  cases h with
  | refused hresolved =>
      have hnone := hresolved.addressee?_eq
      simpa [forgiven, makes?, hnone] using hresolved.stats_of_none hnone
  | skipped hfind hhandler htolerant =>
      have hresolved : Resolved handles line plugin command m _ :=
        .skipped hfind hhandler htolerant
      have hnone := hresolved.addressee?_eq
      simpa [forgiven, makes?, hnone] using hresolved.stats_of_none hnone
  | returned hresolved hexpanded hreply =>
      rw [hresolved.makes?_eq_some, hresolved.lacks_eq,
        forgiven_eq hresolved.addressee?_eq hexpanded, hreply]
      rfl
  | recovered hresolved hexpanded hreply htolerant =>
      rw [hresolved.makes?_eq_some, hresolved.lacks_eq,
        forgiven_eq hresolved.addressee?_eq hexpanded, hreply, htolerant]
      rfl
  | failed hresolved hexpanded hreply hstrict =>
      rw [hresolved.makes?_eq_some, hresolved.lacks_eq,
        forgiven_eq hresolved.addressee?_eq hexpanded, hreply, hstrict]
      rfl

/-- What a command that is left to the workers adds to the counts. -/
theorem HandedOver.stats {result : EStateM.Result ExecError (Machine ω) Unit}
    (h : HandedOver handles line plugin command m delay params result) :
    (Action.state result).stats =
      m.stats.book delay false (makes? handles m plugin command params).isSome
        (lacks handles plugin command) false false := by
  cases h with
  | refused hresolved =>
      have hnone := hresolved.addressee?_eq
      simpa [makes?, hnone] using hresolved.stats_of_none hnone
  | skipped hfind hhandler htolerant =>
      have hresolved : Resolved handles line plugin command m _ :=
        .skipped hfind hhandler htolerant
      have hnone := hresolved.addressee?_eq
      simpa [makes?, hnone] using hresolved.stats_of_none hnone
  | spawned hresolved =>
      rw [hresolved.makes?_eq_some, hresolved.lacks_eq]
      rfl

/-- What a jump adds to the counts. -/
theorem Jumped.stats {condition target : String}
    {result : EStateM.Result ExecError (Machine ω) Nat}
    (h : Jumped place m line condition target result) :
    (Action.state result).stats =
      m.stats.book delay false false false false (m.leads condition target) := by
  unfold leads
  cases h with
  | malformed hexpanded hvalue => simp [← hexpanded, hvalue, Stats.book]
  | stayed hvalue => simp [hvalue, Stats.book]
  | taken hexpanded hvalue hlabel => simp [← hexpanded, hvalue, hlabel, Stats.book]; rfl
  | unknownLabel hvalue hlabel => simp [hvalue, hlabel, Stats.book]

/-- A step books its visit, whether it succeeds or not. -/
theorem Stepped.stats {result : EStateM.Result ExecError (Machine ω) Nat}
    (h : Stepped handles delay place s m result) :
    (Action.state result).stats = Visit.book handles delay ⟨place, s, m⟩ m.stats := by
  unfold Visit.book Visit.called? Visit.handedOver? Visit.skips Visit.forgives Visit.leaps
  cases h with
  | command hentry hdispatch => simpa [hentry, Entry.target?] using hdispatch.stats
  | commandFault hentry hdispatch => simpa [hentry, Entry.target?] using hdispatch.stats
  | detached hentry hdispatch => simpa [hentry, Entry.target?] using hdispatch.stats
  | detachedFault hentry hdispatch => simpa [hentry, Entry.target?] using hdispatch.stats
  | assign hentry hdispatch =>
      -- The variable that receives the result counts for nothing.
      have hstats := hdispatch.stats
      simpa [hentry, Entry.target?, assigned, noted, withSession] using hstats
  | assignFault hentry hdispatch => simpa [hentry, Entry.target?] using hdispatch.stats
  | jump hentry hjump => simpa [hentry, Entry.target?] using hjump.stats
  | label hentry => simp [hentry, Entry.target?, Stats.book]

/-! ### Runs -/

/-- The session has received so many tasks since the start, as visits left to the workers. -/
def Entrusted (handles : List (Handle ω)) (start : Machine ω) (visits : List (Visit ω))
    (session : Session ω) : Prop :=
  session.pool.spawned =
    start.session.pool.spawned + visits.countP (·.handedOver? handles |>.isSome)

theorem Entrusted.tick {session : Session ω} (h : Entrusted handles start visits session) :
    Entrusted handles start visits session.tick :=
  session.spawned_tick.trans h

theorem Entrusted.act {v : Visit ω} {session : Session ω}
    (h : Entrusted handles start visits v.machine.session)
    (hacted : Session.Acted handles v.machine.session (v.called? handles) (v.handedOver? handles)
      session) :
    Entrusted handles start (visits ++ [v]) session := by
  unfold Entrusted at h ⊢
  rw [List.countP_append]
  cases hhanded : v.handedOver? handles with
  | none => simp [hacted.kept hhanded, h, hhanded]
  | some call =>
      obtain ⟨owner, label, handler, -, hpool⟩ := hacted.spawned call hhanded
      simp [hpool, Session.spawn, h, hhanded, Nat.add_assoc]

/-- After these visits the counts are the tally, also of visits before the start, and the session
has the calls and the tasks of the visits since. -/
structure Accounted (handles : List (Handle ω)) (delay : Nat) (start : Machine ω)
    (earlier visits : List (Visit ω)) (m : Machine ω) : Prop where
  stats : m.stats = tally handles delay (earlier ++ visits)
  calls : CallsOf handles start visits m.session
  tasks : Entrusted handles start visits m.session

/-- The counts are kept along a path. -/
theorem Path.accounted (hpath : Path handles delay start visits place m)
    (hstart : start.stats = tally handles delay earlier) :
    Accounted handles delay start earlier visits m := by
  refine ⟨?_, hpath.callsOf,
    hpath.session_induction (fun _ _ h => h.tick) (fun _ _ _ h hacted => h.act hacted) rfl⟩
  induction hpath with
  | start => rw [List.append_nil, hstart]
  | @visit visits place _ m _ s _ _ hstep ih =>
      have hbooked := (step_stepped handles delay place s (m.withSession (·.tick))).stats
      rw [hstep] at hbooked
      rw [← List.append_assoc, tally_concat, ← ih]
      exact hbooked

/-- The counts are right at the end of an execution too, also if its last step fails. -/
theorem Ends.accounted (hends : Ends handles delay start visits ending m)
    (hstart : start.stats = tally handles delay earlier) :
    Accounted handles delay start earlier visits m := by
  refine ⟨?_, hends.callsOf,
    hends.session_induction (fun _ _ h => h.tick) (fun _ _ _ h hacted => h.act hacted)
      (fun _ _ _ _ h => h) rfl⟩
  cases hends with
  | finished hpath _ => exact (hpath.accounted hstart).stats
  | @failed _ place m _ s _ hpath _ hstep =>
      have hbooked := (step_stepped handles delay place s (m.withSession (·.tick))).stats
      rw [hstep] at hbooked
      rw [← List.append_assoc, tally_concat, ← (hpath.accounted hstart).stats]
      exact hbooked

theorem Ends.stats_of_ok {stats : Stats} (hends : Ends handles delay start visits (.ok stats) m) :
    m.stats = stats := by
  cases hends
  rfl

/-- The counts of an execution are exact, however far it has come and however it ends. Commands are
counted that were put to a handler, whether it failed or not, or left to the workers; failures that
the script went on after, be it that the plugin lacked the command or that the handler failed; and
jumps that were taken. The pauses are one less than the commands, or none without a delay. Counts
that a machine brings from earlier executions are carried on. -/
theorem accounted_of_execution (handles : List (Handle ω)) (delay : Nat) (start : Machine ω)
    (earlier : List (Visit ω)) (hstart : start.stats = tally handles delay earlier) :
    (∀ visits place m, Path handles delay start visits place m →
      Accounted handles delay start earlier visits m) ∧
    (∀ visits ending m, Ends handles delay start visits ending m →
      Accounted handles delay start earlier visits m ∧
        ∀ stats, ending = .ok stats → m.stats = stats) ∧
    ∀ fuel ending m, start.run handles delay fuel = some (ending, m) →
      ∃ visits, Ends handles delay start visits ending m := by
  refine ⟨fun _ _ _ hpath => hpath.accounted hstart, ?_, fun _ _ _ hrun => ends_of_run hrun⟩
  rintro visits ending m hends
  refine ⟨hends.accounted hstart, ?_⟩
  rintro stats rfl
  exact hends.stats_of_ok

/-- A lamp that is fault tolerant and another that is not; neither can be red. -/
def lamps : List (Handle Unit) :=
  [("LEFT", true), ("RIGHT", false)].map fun (name, faultTolerant) =>
    { name
      plugin := { model := "Lamp", version := fun _ => "1.0.0.0", commands := fun _ => {} }
      commands := CommandTable.register {} "LIGHT"
        { call := fun params => pure (if params = "red" then .error "burnt out" else .ok "") }
      enabled := true
      faultTolerant }

def lampProgram : Program where
  steps := [⟨1, "LEFT.LIGHT green", .command "LEFT" "LIGHT" "green" false⟩,
    ⟨2, "LEFT.LIGHT red", .command "LEFT" "LIGHT" "red" false⟩,
    ⟨3, "LEFT.DIM", .command "LEFT" "DIM" "" false⟩,
    ⟨4, "LEFT.LIGHT green &", .command "LEFT" "LIGHT" "green" true⟩,
    ⟨5, "GOTO END", .jump "TRUE" "END"⟩,
    ⟨6, "LEFT.LIGHT green", .command "LEFT" "LIGHT" "green" false⟩,
    ⟨7, "LABEL END", .label "END"⟩,
    ⟨8, "RIGHT.LIGHT red", .command "RIGHT" "LIGHT" "red" false⟩]

/-- One command each that succeeds, that is forgiven, that is skipped and that is left to the
workers, then a jump, and then a failure that stops the script. -/
theorem accounted_of_execution_lamps :
    ∃ visits m, Ends lamps 10 ⟨lampProgram, {}, { world := () }⟩ visits
        (.error (.commandFailed 8 "RIGHT.LIGHT red" "burnt out")) m ∧
      tally lamps 10 visits =
        { executed := 4, jumps := 1, recovered := 2, detached := 1, pauses := 3 } ∧
      m.stats = tally lamps 10 visits ∧ CallsOf lamps ⟨lampProgram, {}, { world := () }⟩ visits
        m.session := by
  have hrun : (Machine.run ⟨lampProgram, {}, { world := () }⟩ lamps 10 8).map
      (fun result => (result.1, result.2.stats)) =
        some (.error (.commandFailed 8 "RIGHT.LIGHT red" "burnt out"), ⟨4, 1, 2, 1, 3⟩) := by
    decide +kernel
  obtain ⟨⟨ending, m⟩, hends, hresult⟩ := Option.map_eq_some_iff.1 hrun
  obtain ⟨rfl, hstats⟩ := Prod.mk.injEq .. ▸ hresult
  obtain ⟨-, hended, hvisits⟩ := accounted_of_execution lamps 10
    ⟨lampProgram, {}, { world := () }⟩ [] (by rw [tally_nil])
  obtain ⟨visits, hends⟩ := hvisits _ _ _ hends
  obtain ⟨haccounted, -⟩ := hended _ _ _ hends
  exact ⟨visits, m, hends, haccounted.stats.symm.trans hstats, haccounted.stats, haccounted.calls⟩

end Machine

end RigScript
