import RigScript.Proofs.Execution.Code
import RigScript.Proofs.Execution.Path

/-! ## Programs that only lead forward

A program may jump back, and then nothing bounds its execution. If every jump stands before its
label, the place grows with every step: the execution ends after as many steps as there are
entries, and what its commands do is done in the order of the program. -/

namespace RigScript

/-- Every jump stands before its label. -/
def Program.Forward (p : Program) : Prop :=
  ∀ i j name, targetAt p.steps i = some name → labelAt p.steps j = some name → i < j

namespace Program

theorem lt_size_of_targetAt {p : Program} {name : String} {i : Nat}
    (h : targetAt p.steps i = some name) : i < p.size := by
  obtain ⟨s, hs, -⟩ := Option.bind_eq_some_iff.1 h
  exact (List.getElem?_eq_some_iff.1 hs).1

/-- Only places of entries need to be looked at. -/
theorem forward_iff {p : Program} :
    p.Forward ↔ ∀ i < p.size, ∀ j < p.size, (targetAt p.steps i).isSome →
      targetAt p.steps i = labelAt p.steps j → i < j := by
  constructor
  · intro h i _ j _ hsome heq
    obtain ⟨name, hname⟩ := Option.isSome_iff_exists.1 hsome
    exact h i j name hname (heq ▸ hname)
  · intro h i j name hi hj
    exact h i (lt_size_of_targetAt hi) j (lt_size_of_labelAt hj) (by simp [hi]) (hi.trans hj.symm)

instance (p : Program) : Decidable p.Forward := decidable_of_iff _ forward_iff.symm

end Program

namespace Machine

variable {ω : Type} {handles : List (Handle ω)} {delay place next : Nat} {start m m' : Machine ω}
  {s : Step} {visits : List (Visit ω)} {ending : Ending} {p : Program}

/-! ### Where a step leads -/

/-- A step leads to the next entry, unless it is a jump whose condition holds. -/
theorem Stepped.next_cases (h : Stepped handles delay place s m (.ok next m')) :
    next = place + 1 ∨ ∃ condition target, s.entry = .jump condition target ∧
      m.program.labelIndex? target = some next := by
  cases h with
  | command _ _ => exact .inl rfl
  | detached _ _ => exact .inl rfl
  | assign _ _ => exact .inl rfl
  | label _ => exact .inl rfl
  | jump hentry hjump =>
      cases hjump with
      | stayed _ => exact .inl rfl
      | taken _ _ hlabel => exact .inr ⟨_, _, hentry, hlabel⟩

/-- A jump whose condition holds leads to the place of its label, if it has one. -/
theorem step_of_holds {condition target : String} (hentry : s.entry = .jump condition target)
    (hholds : Condition.evaluate (m.program.macros.expand condition) = .ok true)
    (hlabel : m.program.labelIndex? target = some next) :
    ∃ m', step handles delay place s m = .ok next m' := by
  have hjumped := jump_jumped place m s.line condition target
  have hstep : step handles delay place s m = jump place s.line condition target m := by
    rw [step, hentry]
  rw [hstep]
  generalize jump place s.line condition target m = result at hjumped
  cases hjumped with
  | malformed hexpanded hvalue => simp [hexpanded, hholds] at hvalue
  | stayed hvalue => simp [hholds] at hvalue
  | taken _ _ hlabel' =>
      obtain rfl := Option.some.inj (hlabel.symm.trans hlabel')
      exact ⟨_, rfl⟩
  | unknownLabel _ hnone => simp [hlabel] at hnone

/-! ### Paths -/

theorem Path.code_eq (hpath : Path handles delay start visits place m) :
    m.program.code = start.program.code := by
  induction hpath with
  | start => rfl
  | @visit _ place _ m _ s _ _ hstep ih =>
      have hstepped := step_stepped handles delay place s (m.withSession (·.tick))
      rw [hstep] at hstepped
      exact hstepped.code_eq.trans ih

section Forward

variable (hcode : start.program.code = p.code)
include hcode

/-- What a path visits are entries of the program. -/
theorem Path.entries (hpath : Path handles delay start visits place m) :
    ∀ v ∈ visits, p.steps[v.place]?.map Step.code = some v.step.code := by
  induction hpath with
  | start => simp
  | @visit visits place _ m _ s hpath hs _ ih =>
      intro v hv
      rcases List.mem_append.1 hv with hv | hv
      · exact ih v hv
      · obtain rfl := List.mem_singleton.1 hv
        rw [← Program.step_code_of_code (hpath.code_eq.trans hcode), hs]
        rfl

theorem Ends.entries (hends : Ends handles delay start visits ending m) :
    ∀ v ∈ visits, p.steps[v.place]?.map Step.code = some v.step.code := by
  cases hends with
  | finished hpath _ => exact hpath.entries hcode
  | failed hpath hs _ =>
      intro v hv
      rcases List.mem_append.1 hv with hv | hv
      · exact hpath.entries hcode v hv
      · obtain rfl := List.mem_singleton.1 hv
        rw [← Program.step_code_of_code (hpath.code_eq.trans hcode), hs]
        rfl

variable (hforward : p.Forward)
include hforward

/-- A step leads forward, and not beyond the end. -/
theorem Path.lt_next (hpath : Path handles delay start visits place m)
    (hs : m.program.steps[place]? = some s)
    (hstep : step handles delay place s (m.withSession (·.tick)) = .ok next m') :
    place < next ∧ next ≤ p.size := by
  have hpcode : m.program.code = p.code := hpath.code_eq.trans hcode
  have hstepped := step_stepped handles delay place s (m.withSession (·.tick))
  rw [hstep] at hstepped
  have hentry := Program.step_code_of_code hpcode place
  rw [hs] at hentry
  obtain ⟨s', hs', hscode⟩ := Option.map_eq_some_iff.1 hentry.symm
  rcases hstepped.next_cases with rfl | ⟨condition, target, hjump, hlabel⟩
  · exact ⟨Nat.lt_succ_self _, (List.getElem?_eq_some_iff.1 hs').1⟩
  · have hlands : Program.labelAt p.steps next = some target := by
      rw [← Program.labelAt_of_code hpcode]
      exact Program.labelAt_of_labelIndex? hlabel
    have htarget : Program.targetAt p.steps place = some target :=
      Program.targetAt_of_step hs' (Step.jump_of_code hscode hjump)
    exact ⟨hforward _ _ _ htarget hlands, (Program.lt_size_of_labelAt hlands).le⟩

/-- The place grows with every step. -/
theorem Path.increasing (hpath : Path handles delay start visits place m) :
    (visits.map (·.place) ++ [place]).Pairwise (· < ·) := by
  induction hpath with
  | start => exact List.pairwise_singleton _ _
  | @visit visits place next m _ s hpath hs hstep ih =>
      have hlt := (hpath.lt_next hcode hforward hs hstep).1
      rw [List.map_append, List.map_singleton]
      refine List.pairwise_append.2 ⟨ih, List.pairwise_singleton _ _, ?_⟩
      intro i hi j hj
      obtain rfl := List.mem_singleton.1 hj
      rcases List.mem_append.1 hi with hi | hi
      · exact ((List.pairwise_append.1 ih).2.2 i hi place List.mem_cons_self).trans hlt
      · exact List.mem_singleton.1 hi ▸ hlt

/-- There are no more steps than entries passed. -/
theorem Path.length_le (hpath : Path handles delay start visits place m) :
    visits.length ≤ place ∧ place ≤ p.size := by
  induction hpath with
  | start => exact ⟨Nat.le_refl _, Nat.zero_le _⟩
  | visit hpath hs hstep ih =>
      obtain ⟨hlt, hle⟩ := hpath.lt_next hcode hforward hs hstep
      rw [List.length_append, List.length_singleton]
      exact ⟨by omega, hle⟩

theorem Path.exists_ends (hpath : Path handles delay start visits place m) :
    ∃ all ending m', Ends handles delay start all ending m' := by
  -- Of the program what is still ahead gets shorter with every step.
  induction hahead : p.size - place using Nat.strong_induction_on generalizing visits place m with
  | _ ahead ih =>
      cases hs : m.program.steps[place]? with
      | none => exact ⟨_, _, _, .finished hpath hs⟩
      | some s =>
          cases hstep : step handles delay place s (m.withSession (·.tick)) with
          | error e m₁ => exact ⟨_, _, _, .failed hpath hs hstep⟩
          | ok next m₁ =>
              obtain ⟨hlt, hle⟩ := hpath.lt_next hcode hforward hs hstep
              exact ih (p.size - next) (by omega) (.visit hpath hs hstep) rfl

theorem Ends.length_le (hends : Ends handles delay start visits ending m) :
    visits.length ≤ p.size := by
  cases hends with
  | finished hpath _ =>
      obtain ⟨hlength, hplace⟩ := hpath.length_le hcode hforward
      omega
  | @failed visits place m _ s _ hpath hs _ =>
      have hlength := (hpath.length_le hcode hforward).1
      have hplace : place < m.program.code.length := by
        rw [Program.code, List.length_map]
        exact (List.getElem?_eq_some_iff.1 hs).1
      rw [hpath.code_eq, hcode, Program.code, List.length_map] at hplace
      rw [List.length_append, List.length_singleton, Program.size]
      omega

theorem Ends.increasing (hends : Ends handles delay start visits ending m) :
    (visits.map (·.place)).Pairwise (· < ·) := by
  cases hends with
  | finished hpath _ => exact (List.pairwise_append.1 (hpath.increasing hcode hforward)).1
  | failed hpath _ _ =>
      rw [List.map_append]
      exact hpath.increasing hcode hforward

end Forward

/-- Entries of a program were visited in its order, and the calls that were made and those that
were left to the workers are those of the visits. -/
structure InOrder (p : Program) (handles : List (Handle ω)) (start : Machine ω)
    (visits : List (Visit ω)) (session : Session ω) : Prop where
  increasing : (visits.map (·.place)).Pairwise (· < ·)
  entries : ∀ v ∈ visits, p.steps[v.place]?.map Step.code = some v.step.code
  calls : CallsOf handles start visits session

/-- A program that has passed the checks and only leads forward comes to an end, whatever the
handlers reply: after at most one step for each entry. The place grows with every step, so that no
entry is visited twice and calls are made in the order of the program. A jump whose condition holds
leads to the one label of its name. -/
theorem ends_of_forward {lines : List Line} {p : Program} (hlines : Program.ofLines lines = .ok p)
    (hforward : p.Forward) (handles : List (Handle ω)) (delay : Nat) {start : Machine ω}
    (hcode : start.program.code = p.code) :
    (∃ visits ending m', Ends handles delay start visits ending m' ∧
      start.run handles delay (p.size + 1) = some (ending, m')) ∧
    (∀ visits ending m', Ends handles delay start visits ending m' →
      visits.length ≤ p.size ∧ InOrder p handles start visits m'.session) ∧
    (∀ visits place m, Path handles delay start visits place m →
      InOrder p handles start visits m.session ∧ (∀ v ∈ visits, v.place < place) ∧
      ∀ s condition target, m.program.steps[place]? = some s → s.entry = .jump condition target →
        Condition.evaluate (m.program.macros.expand condition) = .ok true →
        ∃ next m', step handles delay place s (m.withSession (·.tick)) = .ok next m' ∧
          place < next ∧ ∀ i, Program.labelAt p.steps i = some target ↔ i = next) := by
  obtain ⟨-, hflow, -⟩ := Program.ofLines_eq_ok_iff.1 hlines
  have hsound := (Program.checkControlFlow_eq_ok_iff p).1 hflow
  refine ⟨?_, ?_, ?_⟩
  · have hstart : Path handles delay start [] 0 start := .start
    obtain ⟨visits, ending, m', hends⟩ := hstart.exists_ends hcode hforward
    have hlength := hends.length_le hcode hforward
    exact ⟨visits, ending, m', hends, run_of_ends hends (Nat.lt_succ_of_le hlength)⟩
  · intro visits ending m' hends
    exact ⟨hends.length_le hcode hforward, hends.increasing hcode hforward, hends.entries hcode,
      hends.callsOf⟩
  · intro visits place m hpath
    obtain ⟨hincreasing, -, hbelow⟩ :=
      List.pairwise_append.1 (hpath.increasing hcode hforward)
    refine ⟨⟨hincreasing, hpath.entries hcode, hpath.callsOf⟩, ?_, ?_⟩
    · intro v hv
      exact hbelow _ (List.mem_map_of_mem hv) place List.mem_cons_self
    · intro s condition target hs hentry hholds
      have hpcode : m.program.code = p.code := hpath.code_eq.trans hcode
      obtain ⟨s', hs', hscode⟩ :=
        Program.exists_mem_of_code hpcode (List.mem_of_getElem? hs)
      obtain ⟨next, hnext⟩ := Program.exists_labelIndex?_of_checkControlFlow hflow hs'
        (Step.jump_of_code hscode hentry)
      have hlands : Program.labelAt p.steps next = some target :=
        Program.labelAt_of_labelIndex? hnext
      obtain ⟨m', hstep⟩ := step_of_holds (m := m.withSession (·.tick)) hentry hholds
        ((Program.labelIndex?_of_code hpcode target).trans hnext)
      refine ⟨next, m', hstep, (hpath.lt_next hcode hforward hs hstep).1, fun i => ⟨?_, ?_⟩⟩
      · exact fun hi => hsound.once i next target hi hlands
      · rintro rfl
        exact hlands

/-- A script that skips a command if its plugin finds a device. -/
def skipLines : List Line :=
  [⟨1, "LOAD_PLUGIN RIG"⟩, ⟨2, "FOUND ?= RIG.FIND"⟩, ⟨3, "IF $FOUND GOTO READY"⟩,
    ⟨4, "RIG.RESET 5 &"⟩, ⟨5, "LABEL READY"⟩, ⟨6, "RIG.FIND"⟩]

def skipProgram : Program where
  required := [⟨"RIG", none, 1⟩]
  macros := ⟨[("FOUND", .variable none)]⟩
  steps :=
    [⟨2, "FOUND ?= RIG.FIND", .assign "RIG" "FIND" "" "FOUND" ""⟩,
      ⟨3, "IF $FOUND GOTO READY", .jump "$FOUND" "READY"⟩,
      ⟨4, "RIG.RESET 5 &", .command "RIG" "RESET" "5" true⟩,
      ⟨5, "LABEL READY", .label "READY"⟩, ⟨6, "RIG.FIND", .command "RIG" "FIND" "" false⟩]

theorem ofLines_skipLines : Program.ofLines skipLines = .ok skipProgram := by decide +kernel

/-- A plugin that finds a device as soon as it has been asked once. -/
def finderPlugin : Plugin Bool where
  model := "Finder"
  version := fun _ => "1.0.0.0"
  commands := fun _ =>
    ((CommandTable.register {} "FIND"
      { call := fun _ asked => (.ok (if asked then "TRUE" else "FALSE"), true) }).register "RESET"
        { call := fun _ _ => (.ok "", false) }).registerCheck "RESET" fun _ => .ok ()

def finder : Handle Bool where
  name := "RIG"
  plugin := finderPlugin
  commands := finderPlugin.commands false
  enabled := true

theorem ends_of_forward_skip :
    Program.ofLines skipLines = .ok skipProgram ∧ skipProgram.Forward ∧
    ∃ visits ending m', Ends [finder] 0 ⟨skipProgram, {}, { world := true }⟩ visits ending m' ∧
      Machine.run ⟨skipProgram, {}, { world := true }⟩ [finder] 0 (skipProgram.size + 1) =
        some (ending, m') := by
  have hforward : skipProgram.Forward := by decide
  exact ⟨ofLines_skipLines, hforward,
    (ends_of_forward ofLines_skipLines hforward [finder] 0 rfl).1⟩

end Machine

end RigScript
