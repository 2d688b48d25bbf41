import RigScript.Program.Validate
import RigScript.Proofs.Program.ControlFlow

/-! ## The code of a program

An execution changes a program in two respects only: variables receive texts, and an entry that
assigns a variable keeps its last result. What is left when these are taken away is the code of the
program. Where jumps lead and which commands are addressed is decided by the code alone. -/

namespace RigScript

/-- The entry without its last result. -/
def Entry.code : Entry → Entry
  | .assign plugin verb params name _ => .assign plugin verb params name ""
  | .command plugin verb params detached => .command plugin verb params detached
  | .jump condition target => .jump condition target
  | .label name => .label name

/-- The step without its last result. -/
def Step.code (s : Step) : Step := { s with entry := s.entry.code }

/-- The steps of a program without their last results. -/
def Program.code (p : Program) : List Step := p.steps.map Step.code

@[simp] theorem Entry.code_target? (e : Entry) : e.code.target? = e.target? := by
  cases e <;> rfl

@[simp] theorem Entry.code_eq_label_iff (e : Entry) (name : String) :
    e.code = .label name ↔ e = .label name := by
  cases e <;> simp [Entry.code]

@[simp] theorem Entry.code_eq_jump_iff (e : Entry) (condition target : String) :
    e.code = .jump condition target ↔ e = .jump condition target := by
  cases e <;> simp [Entry.code]

namespace Step

variable {s s' : Step} (h : s'.code = s.code)
include h

theorem entry_of_code : s'.entry.code = s.entry.code := congrArg Step.entry h

theorem line_of_code : s'.line = s.line :=
  calc s'.line = s'.code.line := rfl
    _ = s.code.line := by rw [h]
    _ = s.line := rfl

theorem target?_of_code : s'.entry.target? = s.entry.target? := by
  rw [← Entry.code_target?, entry_of_code h, Entry.code_target?]

theorem jump_of_code {condition target : String} (hentry : s.entry = .jump condition target) :
    s'.entry = .jump condition target := by
  rw [← Entry.code_eq_jump_iff, entry_of_code h, Entry.code_eq_jump_iff]
  exact hentry

end Step

namespace Program

theorem labelFrom_code (name : String) (start : Nat) (steps : List Step) :
    labelFrom name start (steps.map Step.code) = labelFrom name start steps := by
  induction steps generalizing start with
  | nil => rfl
  | cons s steps ih =>
      simp only [List.map_cons, labelFrom, ih, Step.code, Entry.code_eq_label_iff]

theorem labelIndex?_of_code {p q : Program} (h : q.code = p.code) (name : String) :
    q.labelIndex? name = p.labelIndex? name := by
  calc labelFrom name 0 q.steps
      = labelFrom name 0 q.code := (labelFrom_code name 0 q.steps).symm
    _ = labelFrom name 0 p.code := by rw [h]
    _ = labelFrom name 0 p.steps := labelFrom_code name 0 p.steps

/-- A step of one program has a counterpart in every program of the same code. -/
theorem exists_mem_of_code {p q : Program} (h : q.code = p.code) {s : Step} (hs : s ∈ q.steps) :
    ∃ s' ∈ p.steps, s'.code = s.code := by
  have hmem : s.code ∈ p.code := h ▸ List.mem_map.2 ⟨s, hs, rfl⟩
  exact List.mem_map.1 hmem

/-- The entry at a place is the same, but for its last result. -/
theorem step_code_of_code {p q : Program} (h : q.code = p.code) (i : Nat) :
    q.steps[i]?.map Step.code = p.steps[i]?.map Step.code := by
  rw [← List.getElem?_map, ← List.getElem?_map]
  exact congrArg (·[i]?) h

theorem labelAt_of_code {p q : Program} (h : q.code = p.code) (i : Nat) :
    labelAt q.steps i = labelAt p.steps i := by
  have hlabel : ∀ steps : List Step,
      labelAt steps i = (steps[i]?.map Step.code).bind (·.entry.label?) := by
    intro steps
    rw [labelAt, Option.bind_map]
    refine congrArg _ (funext fun s => ?_)
    cases hentry : s.entry <;> simp [hentry, Step.code, Entry.code, Entry.label?]
  rw [hlabel, hlabel, step_code_of_code h]

/-! ### Labels -/

/-- A program comes from lines if they can be added and it passes the checks. -/
theorem ofLines_eq_ok_iff {lines : List Line} {p : Program} :
    ofLines lines = .ok p ↔
      pushAll {} lines = .ok p ∧ p.checkControlFlow = .ok () ∧ p.checkPlugins = .ok () := by
  constructor
  · intro h
    unfold ofLines at h
    cases hpush : pushAll {} lines with
    | error e =>
        rw [hpush] at h
        cases h
    | ok q =>
        cases hflow : q.checkControlFlow with
        | error e => simp [hpush, hflow, bind, Except.bind] at h
        | ok =>
            cases hplugins : q.checkPlugins with
            | error e => simp [hpush, hflow, hplugins, bind, Except.bind] at h
            | ok =>
                simp only [hpush, hflow, hplugins, bind, Except.bind, pure, Except.pure] at h
                cases h
                exact ⟨rfl, hflow, hplugins⟩
  · rintro ⟨hpush, hflow, hplugins⟩
    simp [ofLines, hpush, hflow, hplugins, bind, Except.bind, pure, Except.pure]

theorem ofSource_eq_ok_iff {source : String} {p : Program} :
    ofSource source = .ok p ↔
      ∃ lines, Script.readLines source = .ok lines ∧ ofLines lines = .ok p := by
  unfold ofSource
  cases hread : Script.readLines source with
  | error e =>
      refine iff_of_false nofun ?_
      rintro ⟨lines, hlines, -⟩
      cases hlines
  | ok lines =>
      refine ⟨fun h => ⟨lines, rfl, h⟩, ?_⟩
      rintro ⟨_, ⟨⟩, h⟩
      exact h

theorem labelFrom_eq_none_iff {name : String} {start : Nat} {steps : List Step} :
    labelFrom name start steps = none ↔ ∀ s ∈ steps, s.entry ≠ .label name := by
  induction steps generalizing start with
  | nil => simp [labelFrom]
  | cons s steps ih => simp [labelFrom, ih, and_comm]

theorem labelAt_of_labelFrom {name : String} {start place : Nat} {steps : List Step}
    (h : labelFrom name start steps = some place) :
    start ≤ place ∧ labelAt steps (place - start) = some name := by
  induction steps generalizing start with
  | nil => cases h
  | cons s steps ih =>
      rw [labelFrom] at h
      rcases Option.or_eq_some_iff.1 h with hrest | ⟨-, hhere⟩
      · obtain ⟨hle, hlabel⟩ := ih hrest
        refine ⟨by omega, ?_⟩
        rwa [show place - start = place - (start + 1) + 1 by omega]
      · split at hhere
        · rename_i hentry
          obtain rfl := Option.some.inj hhere
          rw [Nat.sub_self]
          exact ⟨Nat.le_refl _, labelAt_of_step rfl hentry⟩
        · cases hhere

/-- The label is set at its place. -/
theorem labelAt_of_labelIndex? {p : Program} {name : String} {place : Nat}
    (h : p.labelIndex? name = some place) : labelAt p.steps place = some name :=
  (labelAt_of_labelFrom h).2

theorem lt_size_of_labelAt {p : Program} {name : String} {place : Nat}
    (h : labelAt p.steps place = some name) : place < p.size := by
  obtain ⟨s, hs, -⟩ := Option.bind_eq_some_iff.1 h
  exact (List.getElem?_eq_some_iff.1 hs).1

/-- In a program that passes the check every jump leads somewhere. -/
theorem exists_labelIndex?_of_checkControlFlow {p : Program} (h : p.checkControlFlow = .ok ())
    {s : Step} (hs : s ∈ p.steps) {condition target : String}
    (hentry : s.entry = .jump condition target) : ∃ place, p.labelIndex? target = some place := by
  have hsound := (checkControlFlow_eq_ok_iff p).1 h
  obtain ⟨i, hi⟩ := List.mem_iff_getElem?.1 hs
  obtain ⟨j, hj⟩ := hsound.complete i target (targetAt_of_step hi hentry)
  -- That the label is set once is not needed here: the last place would do as well.
  apply Option.ne_none_iff_exists'.1
  intro hnone
  obtain ⟨s', hs', hlabel⟩ := Option.bind_eq_some_iff.1 hj
  exact labelFrom_eq_none_iff.1 hnone s' (List.mem_of_getElem? hs') (label?_eq_some_iff.1 hlabel)

end Program

end RigScript
