import RigScript.Program.Builder
import RigScript.Proofs.Plugin.Action
import RigScript.Proofs.Program.Build

/-! ## Building with faults

A builder works in place and is not stopped by a line that fails. Still a line that fails leaves
nothing behind: whatever a statement may be refused for is found out before anything is changed for
it. So lines may be left out that fail, and what has been built once stays as it is. -/

namespace RigScript

/-- Nothing of the first program is missing in the second or different there. -/
structure Program.Extends (p q : Program) : Prop where
  required : p.required <+: q.required
  macros : ∀ name value, p.macros.find? name = some value → q.macros.find? name = some value
  steps : p.steps <+: q.steps

namespace Program

variable {p q r : Program}

theorem Extends.refl (p : Program) : p.Extends p :=
  ⟨List.prefix_refl _, fun _ _ h => h, List.prefix_refl _⟩

theorem Extends.trans (h : p.Extends q) (h' : q.Extends r) : p.Extends r where
  required := h.required.trans h'.required
  macros name value hfind := h'.macros name value (h.macros name value hfind)
  steps := h.steps.trans h'.steps

theorem Added.extends {line : Nat} {text : String} (h : Added p line text q) : p.Extends q := by
  have hinsert : ∀ {name value}, p.macros.find? name = none → ∀ name' value',
      p.macros.find? name' = some value' →
      (p.macros.insert name value).find? name' = some value' := by
    intro name value hnew name' value' hfind
    have hother : name' ≠ name := by
      rintro rfl
      cases hnew.symm.trans hfind
    rwa [NameMap.find?_insert, if_neg hother]
  cases h with
  | plugin => exact ⟨List.prefix_append _ _, fun _ _ h => h, List.prefix_refl _⟩
  | constant hnew => exact ⟨List.prefix_refl _, hinsert hnew, List.prefix_refl _⟩
  | reassign => exact ⟨List.prefix_refl _, fun _ _ h => h, List.prefix_append _ _⟩
  | assign hnew => exact ⟨List.prefix_refl _, hinsert hnew, List.prefix_append _ _⟩
  | entry => exact ⟨List.prefix_refl _, fun _ _ h => h, List.prefix_append _ _⟩

end Program

namespace Building

/-! ### One line -/

/-- What becomes of the program of a builder: a line that fails leaves it alone. -/
def settled (p : Program) : Except ScriptError Program → EStateM.Result ScriptError Program Unit
  | .ok q => .ok () q
  | .error e => .error e p

theorem define_eq (name text : String) (p : Program) :
    define name text p =
      match p.macros.define? name text with
      | some macros => .ok true { p with macros }
      | none => .ok false p := by
  unfold define MacroTable.define?
  rw [Action.get_bind]
  cases p.macros.contains name <;> rfl

theorem register_eq (name : String) (p : Program) :
    register name p =
      match p.macros.register? name with
      | some macros => .ok true { p with macros }
      | none => .ok false p := by
  unfold register MacroTable.register?
  rw [Action.get_bind]
  match p.macros.find? name with
  | some (.constant _) => rfl
  | some (.variable _) => rfl
  | none => rfl

theorem add_eq (line : Nat) (text : String) (s : Statement) (p : Program) :
    add line text s p = settled p (p.addStatement line text s) := by
  cases s with
  | load name gate =>
      have hrequires : requires name p = .ok (p.requirement? name).isSome p := rfl
      simp only [add, Program.addStatement]
      rw [Action.bind_of_ok hrequires]
      cases (p.requirement? name).isSome <;> rfl
  | constant name value =>
      have hdefine := define_eq name value p
      simp only [add, Program.addStatement]
      cases hmacros : p.macros.define? name value <;> rw [hmacros] at hdefine <;>
        rw [Action.bind_of_ok hdefine] <;> rfl
  | assign name plugin command params =>
      simp only [add, Program.addStatement]
      -- The mark is looked for first, so that a name is registered only for an entry.
      obtain ⟨params', detached⟩ := splitDetached params.toList
      cases detached with
      | true => rfl
      | false =>
          have hregister := register_eq name p
          cases hmacros : p.macros.register? name <;> rw [hmacros] at hregister <;>
            exact Action.bind_of_ok hregister
  | command plugin command params => rfl
  | jump condition target => rfl
  | label name => rfl

/-- Pushing in place comes to the same as pushing. -/
theorem push_eq (l : Line) (p : Program) : push l p = settled p (p.push l) := by
  unfold push Program.push
  rw [Action.get_bind]
  dsimp only
  cases Statement.parse? (p.macros.expand l.text) with
  | none => rfl
  | some s => exact add_eq _ _ _ _

theorem eq_of_push_error {l : Line} {p q : Program} {e : ScriptError}
    (h : push l p = .error e q) : q = p := by
  rw [push_eq] at h
  cases hpush : p.push l <;> rw [hpush] at h <;> cases h
  rfl

theorem push_of_push_ok {l : Line} {p q : Program} (h : push l p = .ok () q) :
    p.push l = .ok q := by
  rw [push_eq] at h
  cases hpush : p.push l <;> rw [hpush] at h <;> cases h
  rfl

/-! ### Many lines -/

/-- The lines that did not fail. -/
def kept (lines : List Line) (p : Program) : List Line :=
  ((lines.zip (pushEach lines p).1).filter fun (_, outcome) => outcome.isOk).map (·.1)

variable {l : Line} {lines : List Line} {p q : Program}

theorem pushEach_of_ok (h : push l p = .ok () q) :
    pushEach (l :: lines) p = (.ok () :: (pushEach lines q).1, (pushEach lines q).2) := by
  rw [pushEach, attempt, h]
  rfl

theorem pushEach_of_error {e : ScriptError} (h : push l p = .error e q) :
    pushEach (l :: lines) p = (.error e :: (pushEach lines p).1, (pushEach lines p).2) := by
  obtain rfl := eq_of_push_error h
  rw [pushEach, attempt, h]
  rfl

theorem kept_of_ok (h : push l p = .ok () q) : kept (l :: lines) p = l :: kept lines q := by
  simp [kept, pushEach_of_ok h, Except.isOk, Except.toBool]

theorem kept_of_error {e : ScriptError} (h : push l p = .error e q) :
    kept (l :: lines) p = kept lines p := by
  simp [kept, pushEach_of_error h, Except.isOk, Except.toBool]

/-- Lines that fail may be left out. -/
theorem pushEach_kept (lines : List Line) (p : Program) :
    pushEach (kept lines p) p = ((kept lines p).map fun _ => .ok (), (pushEach lines p).2) := by
  induction lines generalizing p with
  | nil => rfl
  | cons l lines ih =>
      cases h : push l p with
      | ok done q =>
          rw [kept_of_ok h, pushEach_of_ok h, pushEach_of_ok h, ih, List.map_cons]
      | error e q => rw [kept_of_error h, pushEach_of_error h, ih]

/-- Without them the lines make a program. -/
theorem pushAll_kept (lines : List Line) (p : Program) :
    p.pushAll (kept lines p) = .ok (pushEach lines p).2 := by
  induction lines generalizing p with
  | nil => rfl
  | cons l lines ih =>
      cases h : push l p with
      | ok done q =>
          rw [kept_of_ok h, pushEach_of_ok h, Program.pushAll, push_of_push_ok h]
          exact ih q
      | error e q => rw [kept_of_error h, pushEach_of_error h, ih]

theorem pushEach_append (before after : List Line) (p : Program) :
    (pushEach (before ++ after) p).2 = (pushEach after (pushEach before p).2).2 := by
  induction before generalizing p with
  | nil => rfl
  | cons l before ih =>
      rw [List.cons_append]
      cases h : push l p with
      | ok done q => rw [pushEach_of_ok h, pushEach_of_ok h, ih]
      | error e q => rw [pushEach_of_error h, pushEach_of_error h, ih]

theorem extends_pushEach (lines : List Line) (p : Program) : p.Extends (pushEach lines p).2 :=
  Program.pushAll_induction (fun _ _ _ _ h hadd => h.trans hadd.extends) (.refl p)
    (pushAll_kept lines p)

/-- How a program is built. A line that fails leaves it as it was; one that does not adds a
declaration, a constant or an entry, and maybe the name of a variable, and keeps all there is. So
what has been built extends all that was built on the way and needs only the lines that did not
fail; no plugin is declared twice, and no name is both a constant and a variable. -/
theorem pushEach_extends :
    (∀ (p : Program) (l : Line) (e : ScriptError) (q : Program),
      push l p = .error e q → q = p) ∧
    (∀ (p : Program) (l : Line) (q : Program), push l p = .ok () q →
      Program.Added p l.number (p.macros.expand l.text) q ∧ p.Extends q) ∧
    ∀ lines : List Line,
      pushEach (kept lines {}) {} =
        ((kept lines {}).map fun _ => .ok (), (pushEach lines {}).2) ∧
      Program.pushAll {} (kept lines {}) = .ok (pushEach lines {}).2 ∧
      (∀ before after, lines = before ++ after →
        (pushEach before {}).2.Extends (pushEach lines {}).2) ∧
      ((pushEach lines {}).2.required.map (·.name)).Nodup ∧
      ∀ name text bound, (name, text) ∈ (pushEach lines {}).2.macros.constantEntries →
        (name, bound) ∉ (pushEach lines {}).2.macros.variableEntries := by
  refine ⟨fun _ _ _ _ h => eq_of_push_error h, ?_, ?_⟩
  · intro p l q h
    have hadd := Program.added_of_push (push_of_push_ok h)
    exact ⟨hadd, hadd.extends⟩
  · intro lines
    have hbuilt := pushAll_kept lines {}
    have hordered := Program.ordered_of_pushAll hbuilt
    refine ⟨pushEach_kept lines {}, hbuilt, ?_, Program.nodup_of_pushAll hbuilt, ?_⟩
    · rintro before after rfl
      rw [pushEach_append]
      exact extends_pushEach after _
    · intro name text bound hconstant hvariable
      rw [MacroTable.mem_variableEntries_iff hordered] at hvariable
      rw [MacroTable.mem_constantEntries_iff hordered] at hconstant
      cases hconstant.symm.trans hvariable

/-- A constant, a variable that wants its name, and a command that refers to it. -/
def takenLines : List Line :=
  [⟨1, "LIMIT := 5"⟩, ⟨2, "LIMIT ?= RIG.FIND"⟩, ⟨3, "RIG.RESET $LIMIT"⟩]

theorem pushEach_extends_taken :
    (∃ q, push ⟨2, "LIMIT ?= RIG.FIND"⟩ { macros := ⟨[("LIMIT", .constant "5")]⟩ } =
      .error (.macroTaken 2 "LIMIT") q ∧ q = { macros := ⟨[("LIMIT", .constant "5")]⟩ }) ∧
    kept takenLines {} = [⟨1, "LIMIT := 5"⟩, ⟨3, "RIG.RESET $LIMIT"⟩] ∧
    Program.pushAll {} (kept takenLines {}) = .ok (pushEach takenLines {}).2 := by
  obtain ⟨hfault, -, hlines⟩ := pushEach_extends
  obtain ⟨-, hbuilt, -⟩ := hlines takenLines
  refine ⟨?_, by decide +kernel, hbuilt⟩
  have hpush : Program.push { macros := ⟨[("LIMIT", .constant "5")]⟩ } ⟨2, "LIMIT ?= RIG.FIND"⟩ =
      .error (.macroTaken 2 "LIMIT") := by decide +kernel
  have htaken := push_eq ⟨2, "LIMIT ?= RIG.FIND"⟩ { macros := ⟨[("LIMIT", .constant "5")]⟩ }
  rw [hpush] at htaken
  exact ⟨_, htaken, hfault _ _ _ _ htaken⟩

end Building

end RigScript
