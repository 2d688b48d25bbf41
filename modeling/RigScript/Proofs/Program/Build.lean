import RigScript.Program.Build
import RigScript.Proofs.Macro.Order

/-! ## What a line adds

A line adds one declaration, one constant or one entry to a program, and a line that assigns a
variable makes its name known as well. So a program that is built from lines has just the variables
that its entries assign, and none of them has a text yet. -/

namespace RigScript

/-- The variable that an entry gives its result to. -/
def Entry.result? : Entry → Option String
  | .assign _ _ _ name _ => some name
  | .command .. | .jump .. | .label _ => none

namespace MacroTable

variable {t t' : MacroTable} {name text : String}

theorem eq_insert_of_define? (h : t.define? name text = some t') :
    t.find? name = none ∧ t' = t.insert name (.constant text) := by
  unfold define? at h
  split at h
  · cases h
  · rename_i hfree
    refine ⟨?_, (Option.some.inj h).symm⟩
    simpa [NameMap.contains] using hfree

/-- A variable is known already, or its name is new. -/
theorem register?_cases (h : t.register? name = some t') :
    (∃ bound, t.find? name = some (.variable bound)) ∧ t' = t ∨
      t.find? name = none ∧ t' = t.insert name (.variable none) := by
  unfold register? at h
  split at h
  · cases h
  · rename_i bound hfind
    exact .inl ⟨⟨bound, hfind⟩, (Option.some.inj h).symm⟩
  · rename_i hfind
    exact .inr ⟨hfind, (Option.some.inj h).symm⟩

end MacroTable

namespace Program

/-- What a program becomes by one more line. -/
inductive Added (p : Program) (line : Nat) (text : String) : Program → Prop where
  | plugin {name : String} {gate : Option Gate} (hnew : p.requirement? name = none) :
      Added p line text { p with required := p.required ++ [⟨name, gate, line⟩] }
  | constant {name value : String} (hnew : p.macros.find? name = none) :
      Added p line text { p with macros := p.macros.insert name (.constant value) }
  | reassign {name plugin command params : String} {bound : Option String}
      (hknown : p.macros.find? name = some (.variable bound)) :
      Added p line text (p.append line text (.assign plugin command params name ""))
  | assign {name plugin command params : String} (hnew : p.macros.find? name = none) :
      Added p line text ({ p with macros := p.macros.insert name (.variable none) }.append line text
        (.assign plugin command params name ""))
  | entry {e : Entry} (hresult : e.result? = none) : Added p line text (p.append line text e)

variable {p q : Program}

theorem added_of_addStatement {line : Nat} {text : String} {s : Statement}
    (h : p.addStatement line text s = .ok q) : Added p line text q := by
  cases s with
  | load name gate =>
      simp only [addStatement] at h
      split at h
      · cases h
      · rename_i hfree
        cases h
        exact .plugin (by simpa using hfree)
  | constant name value =>
      simp only [addStatement] at h
      split at h
      · rename_i macros hdefine
        obtain ⟨hnew, rfl⟩ := MacroTable.eq_insert_of_define? hdefine
        cases h
        exact .constant hnew
      · cases h
  | assign name plugin command params =>
      simp only [addStatement] at h
      split at h
      · cases h
      · split at h
        · rename_i macros hregister
          cases h
          rcases MacroTable.register?_cases hregister with ⟨⟨bound, hknown⟩, rfl⟩ | ⟨hnew, rfl⟩
          · exact .reassign hknown
          · exact .assign hnew
        · cases h
  | command plugin command params =>
      cases h
      exact .entry rfl
  | jump condition target =>
      cases h
      exact .entry rfl
  | label name =>
      cases h
      exact .entry rfl

theorem added_of_push {l : Line} (h : p.push l = .ok q) :
    Added p l.number (p.macros.expand l.text) q := by
  unfold push at h
  dsimp only at h
  split at h
  · cases h
  · exact added_of_addStatement h

/-- What each of the lines keeps, all of them keep. -/
theorem pushAll_keeps {P : Program → Prop} {lines : List Line}
    (hpush : ∀ p l q, l ∈ lines → P p → p.push l = .ok q → P q) (hp : P p)
    (h : p.pushAll lines = .ok q) : P q := by
  induction lines generalizing p with
  | nil =>
      cases h
      exact hp
  | cons l lines ih =>
      rw [pushAll] at h
      cases hfirst : p.push l with
      | error e =>
          rw [hfirst] at h
          cases h
      | ok p₁ =>
          rw [hfirst] at h
          exact ih (fun p l q hl => hpush p l q (List.mem_cons_of_mem _ hl))
            (hpush p l p₁ List.mem_cons_self hp hfirst) h

/-- What every addition keeps, all lines keep. -/
theorem pushAll_induction {P : Program → Prop}
    (hadd : ∀ p line text q, P p → Added p line text q → P q) {lines : List Line} (hp : P p)
    (h : p.pushAll lines = .ok q) : P q :=
  pushAll_keeps (fun _ _ _ _ hp hpush => hadd _ _ _ _ hp (added_of_push hpush)) hp h

/-! ### Names -/

theorem requirement?_eq_none_iff {name : String} :
    p.requirement? name = none ↔ name ∉ p.required.map (·.name) := by
  rw [requirement?, List.find?_eq_none]
  simp

/-- The names stay distinct when a new one is put behind them. -/
theorem nodup_require {name : String} (h : (p.required.map (·.name)).Nodup)
    (hnew : p.requirement? name = none) (gate : Option Gate) (line : Nat) :
    ((p.required ++ [(⟨name, gate, line⟩ : Requirement)]).map (·.name)).Nodup := by
  rw [List.map_append, List.map_singleton, ← List.concat_eq_append]
  exact h.concat (requirement?_eq_none_iff.1 hnew)

/-- No plugin is declared twice. -/
theorem nodup_of_pushAll {lines : List Line} (h : pushAll {} lines = .ok p) :
    (p.required.map (·.name)).Nodup := by
  refine pushAll_induction (P := fun p => (p.required.map (·.name)).Nodup) ?_ (by simp) h
  intro p line text q hp hadd
  cases hadd with
  | plugin hnew => exact nodup_require hp hnew _ _
  | constant | reassign | assign | entry => exact hp

theorem ordered_of_pushAll {lines : List Line} (h : pushAll {} lines = .ok p) :
    p.macros.Ordered := by
  refine pushAll_induction (P := (·.macros.Ordered)) ?_ NameMap.ordered_empty h
  intro p line text q hp hadd
  cases hadd with
  | plugin | reassign | entry => exact hp
  | constant | assign => exact hp.insert _ _

/-! ### Variables -/

/-- The variables are the names that entries assign, so none of these is a constant. No variable
has a text and no entry a last result. -/
structure Declared (p : Program) : Prop where
  assigned : ∀ name, p.macros.find? name = some (.variable none) ↔
    ∃ s ∈ p.steps, s.entry.result? = some name
  unbound : ∀ name text, p.macros.find? name ≠ some (.variable (some text))
  unused : ∀ s ∈ p.steps, ∀ plugin command params name last,
    s.entry = .assign plugin command params name last → last = ""

theorem declared_empty : Declared {} := ⟨by simp, by simp, by simp⟩

/-- An entry that gives no result away changes nothing. -/
theorem Declared.entry (h : p.Declared) (line : Nat) (text : String) {e : Entry}
    (hresult : e.result? = none) : (p.append line text e).Declared where
  assigned := by
    intro name
    simpa [append, or_and_right, exists_or, hresult] using h.assigned name
  unbound := h.unbound
  unused := by
    intro s hs plugin command params name last hentry
    rcases List.mem_append.1 hs with hs | hs
    · exact h.unused s hs plugin command params name last hentry
    · obtain rfl := List.mem_singleton.1 hs
      obtain rfl : e = .assign plugin command params name last := hentry
      cases hresult

theorem Declared.constant (h : p.Declared) {name value : String}
    (hnew : p.macros.find? name = none) :
    { p with macros := p.macros.insert name (.constant value) }.Declared where
  assigned := by
    intro name'
    rw [NameMap.find?_insert, ← h.assigned name']
    by_cases hname : name' = name
    · simp [hname, hnew]
    · simp [hname]
  unbound := by
    intro name' text
    rw [NameMap.find?_insert]
    by_cases hname : name' = name
    · simp [hname]
    · simpa [hname] using h.unbound name' text
  unused := h.unused

/-- An entry may assign any name that is a variable by then. -/
theorem Declared.assign (h : p.Declared) (line : Nat) (text : String)
    {name plugin command params : String} {macros : MacroTable}
    (hname : macros.find? name = some (.variable none))
    (hother : ∀ name', name' ≠ name → macros.find? name' = p.macros.find? name') :
    ({ p with macros }.append line text (.assign plugin command params name "")).Declared where
  assigned := by
    intro name'
    by_cases heq : name' = name
    · subst heq
      simp [append, hname, Entry.result?]
    · have hne : ¬ name = name' := fun e => heq e.symm
      simpa [append, or_and_right, exists_or, Entry.result?, hother name' heq, hne]
        using h.assigned name'
  unbound := by
    intro name' text'
    by_cases heq : name' = name
    · subst heq
      simp [append, hname]
    · simpa [append, hother name' heq] using h.unbound name' text'
  unused := by
    intro s hs plugin' command' params' name' last hentry
    rcases List.mem_append.1 hs with hs | hs
    · exact h.unused s hs plugin' command' params' name' last hentry
    · obtain rfl := List.mem_singleton.1 hs
      exact (Entry.assign.inj hentry).2.2.2.2.symm

theorem Declared.added (h : p.Declared) {line : Nat} {text : String} (hadd : Added p line text q) :
    q.Declared := by
  cases hadd with
  | plugin _ => exact ⟨h.assigned, h.unbound, h.unused⟩
  | constant hnew => exact h.constant hnew
  | @reassign name _ _ _ bound hknown =>
      -- A variable that is known has no text, or building would have executed something.
      cases bound with
      | none => exact h.assign line text hknown fun _ _ => rfl
      | some text' => exact absurd hknown (h.unbound name text')
  | assign hnew =>
      refine h.assign line text (NameMap.find?_insert_self _ _ _) fun name' hne => ?_
      rw [NameMap.find?_insert, if_neg hne]
  | entry hresult => exact h.entry line text hresult

theorem declared_of_pushAll {lines : List Line} (h : pushAll {} lines = .ok p) : p.Declared :=
  pushAll_induction (fun _ _ _ _ hp hadd => hp.added hadd) declared_empty h

end Program

end RigScript
