import RigScript.Proofs.Execution.Forward
import RigScript.Proofs.Program.Build

/-! ## Variables along an execution

An execution writes to a program in one way only: an entry that assigns a variable gives it the
answer of its command, and keeps that answer itself. The row of these assignments therefore says
what a program has become. No constant is ever written to, for no entry assigns a name that is
constant, and this is known from the building of the program. -/

namespace RigScript.Machine

variable {ω : Type}

/-! ### Assignments -/

/-- A text that an entry gave to a variable. -/
structure Assignment where
  place : Nat
  name : String
  text : String
  deriving DecidableEq, Repr

/-- The assignment that a visit makes; none if its command stops the script. -/
def Visit.assignment? (handles : List (Handle ω)) (v : Visit ω) : Option Assignment :=
  match v.step.entry with
  | .assign plugin command params name _ =>
    (answer? handles v.machine plugin command params).map (⟨v.place, name, ·⟩)
  | .command .. | .jump .. | .label _ => none

def assignments (handles : List (Handle ω)) (visits : List (Visit ω)) : List Assignment :=
  visits.filterMap (·.assignment? handles)

@[simp] theorem assignments_nil (handles : List (Handle ω)) : assignments handles [] = [] := rfl

theorem assignments_append (handles : List (Handle ω)) (visits : List (Visit ω)) (v : Visit ω) :
    assignments handles (visits ++ [v]) =
      assignments handles visits ++ (v.assignment? handles).toList := by
  rw [assignments, List.filterMap_append]
  cases h : v.assignment? handles <;> simp [assignments, h]

/-- The text of the latest assignment of a kind. -/
def latest (fits : Assignment → Bool) (done : List Assignment) : Option String :=
  (done.reverse.find? fits).map (·.text)

@[simp] theorem latest_nil (fits : Assignment → Bool) : latest fits [] = none := rfl

theorem latest_append (fits : Assignment → Bool) (done : List Assignment) (a : Assignment) :
    latest fits (done ++ [a]) = if fits a then some a.text else latest fits done := by
  cases h : fits a <;> simp [latest, h]

/-- What a program has become by assignments: code, names and constants are as they were, a
variable has the text of the latest assignment to it, and an entry that of its own latest one. -/
structure Environment (p : Program) (done : List Assignment) (q : Program) : Prop where
  code : q.code = p.code
  names : ∀ name, q.macros.contains name = p.macros.contains name
  constants : ∀ name text,
    q.macros.find? name = some (.constant text) ↔ p.macros.find? name = some (.constant text)
  texts : ∀ name bound, q.macros.find? name = some (.variable bound) →
    bound = latest (·.name == name) done
  results : ∀ (place : Nat) (s : Step) (plugin command params name last : String),
    q.steps[place]? = some s → s.entry = .assign plugin command params name last →
    last = (latest (·.place == place) done).getD ""

/-! ### From the building to the end of an execution -/

variable {handles : List (Handle ω)} {delay place : Nat} {start m m' : Machine ω} {s : Step}
  {visits : List (Visit ω)} {ending : Ending} {p : Program} {done : List Assignment}

theorem environment_self (hp : p.Declared) : Environment p [] p where
  code := rfl
  names := fun _ => rfl
  constants := fun _ _ => Iff.rfl
  texts := by
    intro name bound hfind
    cases bound with
    | none => rfl
    | some text => exact absurd hfind (hp.unbound name text)
  results := by
    intro place s plugin command params name last hs hentry
    exact hp.unused s (List.mem_of_getElem? hs) plugin command params name last hentry

/-- What an entry assigns is a variable, in the program as it was built. -/
theorem Environment.find?_of_assign (h : Environment p done m.program) (hp : p.Declared)
    (hs : m.program.steps[place]? = some s) {plugin command params name last : String}
    (hentry : s.entry = .assign plugin command params name last) :
    p.macros.find? name = some (.variable none) := by
  obtain ⟨s', hs', hcode⟩ := Program.exists_mem_of_code h.code (List.mem_of_getElem? hs)
  have hentries : s'.entry.code = .assign plugin command params name "" := by
    rw [Step.entry_of_code hcode, hentry]
    rfl
  refine (hp.assigned name).2 ⟨s', hs', ?_⟩
  cases hentry' : s'.entry with
  | assign _ _ _ name' _ =>
      rw [hentry'] at hentries
      exact congrArg some (Entry.assign.inj hentries).2.2.2.1
  | command _ _ _ _ => simp [hentry', Entry.code] at hentries
  | jump _ _ => simp [hentry', Entry.code] at hentries
  | label _ => simp [hentry', Entry.code] at hentries

/-- An assignment becomes the latest one to its variable, and of its entry. -/
theorem Environment.assigned (h : Environment p done m.program) {name : String}
    (hname : p.macros.find? name = some (.variable none)) (text : String) :
    Environment p (done ++ [⟨place, name, text⟩]) (m.assigned place name text).program where
  code := (assigned_code _ _ _ _).trans h.code
  names := by
    intro name'
    have hknown : p.macros.contains name = true := by simp [NameMap.contains, hname]
    rw [← h.names name']
    change (m.program.macros.insert name _).contains name' = _
    rw [NameMap.contains_insert]
    by_cases heq : name' = name
    · simp [heq, h.names, hknown]
    · simp [heq]
  constants := by
    intro name' text'
    rw [← h.constants name' text']
    change (m.program.macros.insert name _).find? name' = _ ↔ _
    rw [NameMap.find?_insert]
    by_cases heq : name' = name
    · -- The name is a variable, so neither side holds.
      have hconstant := h.constants name text'
      rw [hname] at hconstant
      simp [heq, hconstant]
    · rw [if_neg heq]
  texts := by
    intro name' bound hfind
    change (m.program.macros.insert name _).find? name' = _ at hfind
    rw [NameMap.find?_insert] at hfind
    rw [latest_append]
    by_cases heq : name' = name
    · rw [if_pos heq] at hfind
      obtain rfl := MacroValue.variable.inj (Option.some.inj hfind)
      simp [heq]
    · rw [if_neg heq] at hfind
      have hne : ¬ name = name' := fun e => heq e.symm
      simpa [hne] using h.texts name' bound hfind
  results := by
    intro place' s plugin command params name' last hs hentry
    simp only [Machine.assigned, List.getElem?_modify] at hs
    rw [latest_append]
    by_cases heq : place = place'
    · subst heq
      obtain ⟨s₀, -, rfl⟩ := Option.map_eq_some_iff.1 hs
      cases hentry₀ : s₀.entry <;> simp [hentry₀] at hentry
      simp [hentry.2.2.2.2]
    · simp only [heq, if_false, id_map'] at hs
      simpa [heq] using h.results place' s plugin command params name' last hs hentry

/-- A step assigns what its visit assigns, and writes nothing else. -/
theorem Stepped.environment {result : EStateM.Result ExecError (Machine ω) Nat}
    (hstepped : Stepped handles delay place s m result) (hp : p.Declared)
    (hs : m.program.steps[place]? = some s) (h : Environment p done m.program) :
    Environment p (done ++ (Visit.assignment? handles ⟨place, s, m⟩).toList)
      (Action.state result).program := by
  unfold Visit.assignment?
  cases hstepped with
  | command hentry hdispatch => simpa [hentry, ← hdispatch.program_eq] using h
  | commandFault hentry hdispatch => simpa [hentry, ← hdispatch.program_eq] using h
  | detached hentry hdispatch => simpa [hentry, ← hdispatch.program_eq] using h
  | detachedFault hentry hdispatch => simpa [hentry, ← hdispatch.program_eq] using h
  | @assign plugin command params name last text m₁ hentry hdispatch =>
      have hanswer := hdispatch.answer?_eq
      have hname := h.find?_of_assign hp hs hentry
      have hm₁ : Environment p done m₁.program := hdispatch.program_eq ▸ h
      simp only [hentry, hanswer]
      exact Environment.assigned (m := m₁.noted _ _) hm₁ hname text
  | assignFault hentry hdispatch =>
      have hanswer := hdispatch.answer?_eq
      simpa [hentry, hanswer, ← hdispatch.program_eq] using h
  | jump hentry hjump =>
      simp only [hentry, Option.toList_none, List.append_nil]
      cases hjump <;> exact h
  | label hentry => simpa [hentry] using h

/-- A step that does not fail assigns a variable if its entry does. -/
theorem Stepped.assignment?_name {next : Nat}
    (h : Stepped handles delay place s m (.ok next m')) :
    (Visit.assignment? handles ⟨place, s, m⟩).map (·.name) = s.entry.result? := by
  unfold Visit.assignment?
  cases h with
  | command hentry _ => simp [hentry, Entry.result?]
  | detached hentry _ => simp [hentry, Entry.result?]
  | assign hentry hdispatch =>
      have hanswer := hdispatch.answer?_eq
      simp [hentry, hanswer, Entry.result?]
  | jump hentry _ => simp [hentry, Entry.result?]
  | label hentry => simp [hentry, Entry.result?]

theorem Path.environment (hp : p.Declared) (h : Environment p done start.program)
    (hpath : Path handles delay start visits place m) :
    Environment p (done ++ assignments handles visits) m.program := by
  induction hpath with
  | start => simpa using h
  | @visit visits place _ m _ s _ hs hstep ih =>
      have hstepped := step_stepped handles delay place s (m.withSession (·.tick))
      rw [hstep] at hstepped
      rw [assignments_append, ← List.append_assoc]
      exact hstepped.environment hp hs ih

theorem Ends.environment (hp : p.Declared) (h : Environment p done start.program)
    (hends : Ends handles delay start visits ending m) :
    Environment p (done ++ assignments handles visits) m.program := by
  cases hends with
  | finished hpath _ => exact (hpath.environment hp h :)
  | @failed visits place m _ s _ hpath hs hstep =>
      have hstepped := step_stepped handles delay place s (m.withSession (·.tick))
      rw [hstep] at hstepped
      rw [assignments_append, ← List.append_assoc]
      have hvisited := hpath.environment hp h
      exact hstepped.environment hp hs hvisited

/-- Where an execution goes on, every entry that it has passed and that assigns a variable has
done so. -/
theorem Path.assigned (hpath : Path handles delay start visits place m) :
    ∀ v ∈ visits, (v.assignment? handles).map (·.name) = v.step.entry.result? := by
  induction hpath with
  | start => simp
  | @visit visits place _ m _ s _ hs hstep ih =>
      intro v hv
      rcases List.mem_append.1 hv with hv | hv
      · exact ih v hv
      · obtain rfl := List.mem_singleton.1 hv
        have hstepped := step_stepped handles delay place s (m.withSession (·.tick))
        rw [hstep] at hstepped
        exact hstepped.assignment?_name

/-- The environment of macros over whole executions. A program that is built from lines has just
the variables that its entries assign, none of them constant and none with a text. However it is
executed, also if it is executed again, its names and its constants remain, a variable has the text
that was assigned to it last, and an entry that assigns a variable has the text of its own last
assignment. -/
theorem environment_of_ofLines {lines : List Line} (hlines : Program.ofLines lines = .ok p) :
    p.Declared ∧ Environment p [] p ∧
    ∀ (handles : List (Handle ω)) (delay : Nat) (start : Machine ω) (done : List Assignment),
      Environment p done start.program →
      (∀ visits place m, Path handles delay start visits place m →
        Environment p (done ++ assignments handles visits) m.program ∧
        ∀ v ∈ visits, (v.assignment? handles).map (·.name) = v.step.entry.result?) ∧
      (∀ fuel ending m', start.run handles delay fuel = some (ending, m') →
        ∃ visits, Ends handles delay start visits ending m' ∧
          Environment p (done ++ assignments handles visits) m'.program) := by
  have hp : p.Declared := Program.declared_of_pushAll (Program.ofLines_eq_ok_iff.1 hlines).1
  refine ⟨hp, environment_self hp, ?_⟩
  intro handles delay start done hstart
  refine ⟨?_, ?_⟩
  · intro visits place m hpath
    exact ⟨hpath.environment hp hstart, hpath.assigned⟩
  · intro fuel ending m' hrun
    obtain ⟨visits, hends⟩ := ends_of_run hrun
    exact ⟨visits, hends, hends.environment hp hstart⟩

/-- In the script that looks for a device, what was found is known once the run has ended. -/
theorem environment_of_ofLines_skip :
    Program.ofLines skipLines = .ok skipProgram ∧ skipProgram.Declared ∧
    ∃ visits ending m', Ends [finder] 0 ⟨skipProgram, {}, { world := true }⟩ visits ending m' ∧
      m'.program.macros.find? "FOUND" = some (.variable (some "TRUE")) ∧
      Environment skipProgram (assignments [finder] visits) m'.program := by
  obtain ⟨hdeclared, hself, hruns⟩ := environment_of_ofLines (ω := Bool) ofLines_skipLines
  refine ⟨ofLines_skipLines, hdeclared, ?_⟩
  have hfound : (run ⟨skipProgram, {}, { world := true }⟩ [finder] 0 6).map
      (·.2.program.macros.find? "FOUND") = some (some (.variable (some "TRUE"))) := by
    decide +kernel
  obtain ⟨⟨ending, m'⟩, hrun, hfound⟩ := Option.map_eq_some_iff.1 hfound
  obtain ⟨visits, hends, henvironment⟩ :=
    (hruns [finder] 0 ⟨skipProgram, {}, { world := true }⟩ [] hself).2 6 ending m' hrun
  exact ⟨visits, ending, m', hends, hfound, henvironment⟩

end RigScript.Machine
