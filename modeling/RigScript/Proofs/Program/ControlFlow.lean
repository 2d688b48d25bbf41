import Mathlib.Data.List.MinMax
import RigScript.Program.Check

/-! ## What the control flow check decides

The check goes through a program once and keeps two lists, of the jumps and of the labels that it
has passed. What it decides is stated here without the pass, by the places of jumps and labels:
when a program passes, and which fault is reported when it does not. -/

namespace RigScript

/-- The label that an entry jumps to. -/
def Entry.destination? : Entry → Option String
  | .jump _ target => some target
  | _ => none

namespace Program

/-! ### Places of jumps and labels -/

/-- The label that is set at a place. -/
def labelAt (steps : List Step) (i : Nat) : Option String := steps[i]?.bind (·.entry.label?)

/-- The label that the entry at a place jumps to. -/
def targetAt (steps : List Step) (i : Nat) : Option String :=
  steps[i]?.bind (·.entry.destination?)

/-- A jump to the label stands before the place. -/
def Announced (steps : List Step) (i : Nat) (name : String) : Prop :=
  ∃ k < i, targetAt steps k = some name

/-- The label is set before the place. -/
def SetBefore (steps : List Step) (i : Nat) (name : String) : Prop :=
  ∃ k < i, labelAt steps k = some name

/-- The entry at the place is a label that no jump announces or that has been set already. -/
def FaultyLabel (steps : List Step) (i : Nat) : Prop :=
  ∃ name, labelAt steps i = some name ∧ (¬ Announced steps i name ∨ SetBefore steps i name)

/-- Some entry sets the label. -/
def IsSet (steps : List Step) (name : String) : Prop := ∃ i, labelAt steps i = some name

/-- Every label is set once, after a jump to it, and every jump has its label. -/
structure FlowSound (steps : List Step) : Prop where
  once : ∀ i j name, labelAt steps i = some name → labelAt steps j = some name → i = j
  announced : ∀ i name, labelAt steps i = some name → Announced steps i name
  complete : ∀ i name, targetAt steps i = some name → IsSet steps name

/-- The fault of a program. The first faulty label counts, whatever the jumps; if there is none,
the first jump without a label does. -/
inductive FlowFault (steps : List Step) : ScriptError → Prop where
  | orphan {i : Nat} {s : Step} {name : String} (hstep : steps[i]? = some s)
      (hentry : s.entry = .label name) (hannounced : ¬ Announced steps i name)
      (hfirst : ∀ k < i, ¬ FaultyLabel steps k) :
      FlowFault steps (.orphanLabel s.line name)
  | repeated {i : Nat} {s : Step} {name : String} (hstep : steps[i]? = some s)
      (hentry : s.entry = .label name) (hannounced : Announced steps i name)
      (hset : SetBefore steps i name) (hfirst : ∀ k < i, ¬ FaultyLabel steps k) :
      FlowFault steps (.labelRepeated s.line name)
  | missing {i : Nat} {s : Step} {condition name : String} (hstep : steps[i]? = some s)
      (hentry : s.entry = .jump condition name) (hset : ¬ IsSet steps name)
      (hfirst : ∀ k < i, ∀ other, targetAt steps k = some other → IsSet steps other)
      (hlabels : ∀ k, ¬ FaultyLabel steps k) :
      FlowFault steps (.labelMissing s.line name)

theorem labelAt_of_step {steps : List Step} {i : Nat} {s : Step} {name : String}
    (hstep : steps[i]? = some s) (hentry : s.entry = .label name) :
    labelAt steps i = some name := by
  simp [labelAt, hstep, hentry, Entry.label?]

theorem targetAt_of_step {steps : List Step} {i : Nat} {s : Step} {condition name : String}
    (hstep : steps[i]? = some s) (hentry : s.entry = .jump condition name) :
    targetAt steps i = some name := by
  simp [targetAt, hstep, hentry, Entry.destination?]

theorem label?_eq_some_iff {e : Entry} {name : String} :
    e.label? = some name ↔ e = .label name := by
  cases e <;> simp [Entry.label?]

theorem exists_of_targetAt {steps : List Step} {i : Nat} {name : String}
    (h : targetAt steps i = some name) :
    ∃ s condition, steps[i]? = some s ∧ s.entry = .jump condition name := by
  obtain ⟨s, hs, htarget⟩ := Option.bind_eq_some_iff.1 h
  cases hentry : s.entry with
  | jump condition target =>
      simp only [hentry, Entry.destination?, Option.some.injEq] at htarget
      exact ⟨s, condition, hs, by rw [htarget] at hentry; exact hentry⟩
  | _ => simp [hentry, Entry.destination?] at htarget

/-! ### At most one verdict -/

theorem FlowSound.not_faultyLabel {steps : List Step} (h : FlowSound steps) (i : Nat) :
    ¬ FaultyLabel steps i := by
  rintro ⟨name, hlabel, hannounced | ⟨k, hk, hset⟩⟩
  · exact hannounced (h.announced i name hlabel)
  · have := h.once i k name hlabel hset
    omega

/-- A program without a faulty label whose jumps have their labels is sound. -/
theorem FlowSound.of_not_faultyLabel {steps : List Step} (hlabels : ∀ i, ¬ FaultyLabel steps i)
    (hjumps : ∀ i name, targetAt steps i = some name → IsSet steps name) : FlowSound steps where
  once := by
    intro i j name hi hj
    by_contra hne
    rcases Nat.lt_or_gt_of_ne hne with hlt | hgt
    · exact hlabels j ⟨name, hj, .inr ⟨i, hlt, hi⟩⟩
    · exact hlabels i ⟨name, hi, .inr ⟨j, hgt, hj⟩⟩
  announced := by
    intro i name hi
    by_contra hannounced
    exact hlabels i ⟨name, hi, .inl hannounced⟩
  complete := hjumps

theorem FlowSound.not_fault {steps : List Step} (h : FlowSound steps) {e : ScriptError} :
    ¬ FlowFault steps e := by
  intro hfault
  cases hfault with
  | orphan hstep hentry hannounced _ =>
      exact hannounced (h.announced _ _ (labelAt_of_step hstep hentry))
  | repeated hstep hentry _ hset _ =>
      exact h.not_faultyLabel _ ⟨_, labelAt_of_step hstep hentry, .inr hset⟩
  | missing hstep hentry hset _ _ =>
      exact hset (h.complete _ _ (targetAt_of_step hstep hentry))

/-- Of two places that are first in the same respect neither comes before the other. -/
private theorem first_unique {P : Nat → Prop} {i j : Nat} (hi : P i) (hj : P j)
    (hfirst : ∀ k < i, ¬ P k) (hfirst' : ∀ k < j, ¬ P k) : i = j := by
  rcases Nat.lt_trichotomy i j with hlt | heq | hgt
  · exact absurd hi (hfirst' i hlt)
  · exact heq
  · exact absurd hj (hfirst j hgt)

/-- The step is the first faulty label of a program. -/
private structure FirstFaulty (steps : List Step) (i : Nat) (s : Step) (name : String) : Prop where
  hstep : steps[i]? = some s
  hentry : s.entry = .label name
  hfault : ¬ Announced steps i name ∨ SetBefore steps i name
  hfirst : ∀ k < i, ¬ FaultyLabel steps k

private theorem FirstFaulty.faultyLabel {steps : List Step} {i : Nat} {s : Step} {name : String}
    (h : FirstFaulty steps i s name) : FaultyLabel steps i :=
  ⟨name, labelAt_of_step h.hstep h.hentry, h.hfault⟩

private theorem FirstFaulty.unique {steps : List Step} {i j : Nat} {s s' : Step}
    {name name' : String} (h : FirstFaulty steps i s name) (h' : FirstFaulty steps j s' name') :
    i = j ∧ s = s' ∧ name = name' := by
  have hij : i = j := first_unique h.faultyLabel h'.faultyLabel h.hfirst h'.hfirst
  subst hij
  obtain rfl : s = s' := Option.some.inj (h.hstep.symm.trans h'.hstep)
  exact ⟨rfl, rfl, Entry.label.inj (h.hentry.symm.trans h'.hentry)⟩

/-- A program has one fault at most. -/
theorem FlowFault.unique {steps : List Step} {e e' : ScriptError} (h : FlowFault steps e)
    (h' : FlowFault steps e') : e = e' := by
  cases h with
  | orphan hstep hentry hannounced hfirst =>
      have hfault : FirstFaulty steps _ _ _ := ⟨hstep, hentry, .inl hannounced, hfirst⟩
      cases h' with
      | orphan hstep' hentry' hannounced' hfirst' =>
          obtain ⟨-, rfl, rfl⟩ := hfault.unique ⟨hstep', hentry', .inl hannounced', hfirst'⟩
          rfl
      | repeated hstep' hentry' hannounced' hset' hfirst' =>
          obtain ⟨rfl, -, rfl⟩ := hfault.unique ⟨hstep', hentry', .inr hset', hfirst'⟩
          exact absurd hannounced' hannounced
      | missing _ _ _ _ hlabels => exact absurd hfault.faultyLabel (hlabels _)
  | repeated hstep hentry hannounced hset hfirst =>
      have hfault : FirstFaulty steps _ _ _ := ⟨hstep, hentry, .inr hset, hfirst⟩
      cases h' with
      | orphan hstep' hentry' hannounced' hfirst' =>
          obtain ⟨rfl, -, rfl⟩ := hfault.unique ⟨hstep', hentry', .inl hannounced', hfirst'⟩
          exact absurd hannounced hannounced'
      | repeated hstep' hentry' hannounced' hset' hfirst' =>
          obtain ⟨-, rfl, rfl⟩ := hfault.unique ⟨hstep', hentry', .inr hset', hfirst'⟩
          rfl
      | missing _ _ _ _ hlabels => exact absurd hfault.faultyLabel (hlabels _)
  | missing hstep hentry hset hfirst hlabels =>
      cases h' with
      | orphan hstep' hentry' hannounced' _ =>
          exact absurd ⟨_, labelAt_of_step hstep' hentry', .inl hannounced'⟩ (hlabels _)
      | repeated hstep' hentry' _ hset' _ =>
          exact absurd ⟨_, labelAt_of_step hstep' hentry', .inr hset'⟩ (hlabels _)
      | @missing j s' condition' name' hstep' hentry' hset' hfirst' _ =>
          -- Both jumps are the first one without a label.
          have hij := first_unique
            (P := fun i => ∃ name, targetAt steps i = some name ∧ ¬ IsSet steps name)
            ⟨_, targetAt_of_step hstep hentry, hset⟩ ⟨_, targetAt_of_step hstep' hentry', hset'⟩
            (fun k hk ⟨name, htarget, hname⟩ => hname (hfirst k hk name htarget))
            (fun k hk ⟨name, htarget, hname⟩ => hname (hfirst' k hk name htarget))
          subst hij
          obtain rfl : _ = s' := Option.some.inj (hstep.symm.trans hstep')
          obtain ⟨-, rfl⟩ := Entry.jump.inj (hentry.symm.trans hentry')
          rfl

/-! ### The pass

`Seen` says what the two lists hold when the entries of `pre` have been passed. A list of jumps
without repetitions is as good as one with them, since only the first jump to a label is ever
looked for. -/

/-- The jumps of a program in order, each with its line. -/
def jumps (steps : List Step) : List (String × Nat) :=
  steps.filterMap fun s => s.entry.destination?.map (·, s.line)

/-- What the pass holds after the entries of `pre`. -/
structure Seen (pre : List Step) (seen : Targets) (set : List String) : Prop where
  jumped : ∀ q : String → Bool, seen.find? (fun t => q t.1) = (jumps pre).find? (fun t => q t.1)
  labels : ∀ name, name ∈ set ↔ ∃ s ∈ pre, s.entry = .label name

theorem find?_note (seen : Targets) (label : String) (line : Nat) (q : String → Bool) :
    (seen.note label line).find? (fun t => q t.1) =
      (seen ++ [(label, line)]).find? (fun t => q t.1) := by
  unfold Targets.note
  split
  · rename_i hany
    obtain ⟨⟨name, l⟩, hmem, hname⟩ := List.any_eq_true.1 hany
    obtain rfl : name = label := by simpa using hname
    -- An earlier jump to the same label is in the list and would be found first.
    cases hq : q name with
    | true =>
        have hsome : (seen.find? fun t => q t.1).isSome :=
          List.find?_isSome.2 ⟨_, hmem, hq⟩
        rw [List.find?_append, Option.or_of_isSome hsome]
    | false => simp [hq]
  · rfl

theorem Seen.start : Seen [] [] [] where
  jumped := fun _ => rfl
  labels := by simp

theorem Seen.jump {pre : List Step} {seen : Targets} {set : List String} (h : Seen pre seen set)
    {s : Step} {condition target : String} (hentry : s.entry = .jump condition target) :
    Seen (pre ++ [s]) (seen.note target s.line) set where
  jumped := by
    intro q
    have hjumps : jumps (pre ++ [s]) = jumps pre ++ [(target, s.line)] := by
      simp [jumps, hentry, Entry.destination?]
    rw [find?_note, hjumps, List.find?_append, List.find?_append, h.jumped q]
  labels := by
    intro name
    simp [h.labels name, or_and_right, exists_or, hentry]

theorem Seen.label {pre : List Step} {seen : Targets} {set : List String} (h : Seen pre seen set)
    {s : Step} {name : String} (hentry : s.entry = .label name) :
    Seen (pre ++ [s]) seen (name :: set) where
  jumped := by
    intro q
    rw [h.jumped q]
    simp [jumps, hentry, Entry.destination?]
  labels := by
    intro other
    rw [List.mem_cons, h.labels other]
    simp [or_and_right, exists_or, hentry, or_comm, eq_comm]

theorem Seen.other {pre : List Step} {seen : Targets} {set : List String} (h : Seen pre seen set)
    {s : Step} (hjump : s.entry.destination? = none) (hlabel : s.entry.label? = none) :
    Seen (pre ++ [s]) seen set where
  jumped := by
    intro q
    rw [h.jumped q]
    simp [jumps, hjump]
  labels := by
    intro name
    rw [h.labels name]
    have hne : s.entry ≠ .label name := by
      intro heq
      simp [heq, Entry.label?] at hlabel
    simp [or_and_right, exists_or, hne]

section Place

variable {pre rest : List Step} {s : Step}

theorem exists_lt_length_iff {P : Step → Prop} :
    (∃ k < pre.length, ∃ t, (pre ++ s :: rest)[k]? = some t ∧ P t) ↔ ∃ t ∈ pre, P t := by
  constructor
  · rintro ⟨k, hk, t, ht, hP⟩
    rw [List.getElem?_append_left hk] at ht
    exact ⟨t, List.mem_of_getElem? ht, hP⟩
  · rintro ⟨t, ht, hP⟩
    obtain ⟨k, hk⟩ := List.mem_iff_getElem?.1 ht
    have hlt : k < pre.length := (List.getElem?_eq_some_iff.1 hk).1
    exact ⟨k, hlt, t, by rw [List.getElem?_append_left hlt, hk], hP⟩

theorem announced_length_iff {name : String} :
    Announced (pre ++ s :: rest) pre.length name ↔
      ∃ t ∈ pre, t.entry.destination? = some name := by
  simp only [Announced, targetAt, Option.bind_eq_some_iff]
  exact exists_lt_length_iff

theorem setBefore_length_iff {name : String} :
    SetBefore (pre ++ s :: rest) pre.length name ↔ ∃ t ∈ pre, t.entry = .label name := by
  simp only [SetBefore, labelAt, Option.bind_eq_some_iff, label?_eq_some_iff]
  exact exists_lt_length_iff

theorem getElem?_length : (pre ++ s :: rest)[pre.length]? = some s := by simp

theorem Seen.any_iff {seen : Targets} {set : List String} (h : Seen pre seen set) (name : String) :
    seen.any (·.1 == name) ↔ Announced (pre ++ s :: rest) pre.length name := by
  rw [announced_length_iff, ← List.isSome_find?, h.jumped (· == name), List.isSome_find?]
  simp only [jumps, List.any_eq_true, List.mem_filterMap, Option.map_eq_some_iff, beq_iff_eq]
  constructor
  · rintro ⟨_, ⟨t, ht, target, htarget, rfl⟩, rfl⟩
    exact ⟨t, ht, htarget⟩
  · rintro ⟨t, ht, htarget⟩
    exact ⟨_, ⟨t, ht, name, htarget, rfl⟩, rfl⟩

theorem Seen.mem_iff {seen : Targets} {set : List String} (h : Seen pre seen set) (name : String) :
    name ∈ set ↔ SetBefore (pre ++ s :: rest) pre.length name := by
  rw [h.labels name, setBefore_length_iff]

end Place

theorem isSet_iff {steps : List Step} {name : String} :
    IsSet steps name ↔ ∃ s ∈ steps, s.entry = .label name := by
  simp only [IsSet, labelAt, Option.bind_eq_some_iff, label?_eq_some_iff]
  constructor
  · rintro ⟨i, s, hs, hentry⟩
    exact ⟨s, List.mem_of_getElem? hs, hentry⟩
  · rintro ⟨s, hs, hentry⟩
    obtain ⟨i, hi⟩ := List.mem_iff_getElem?.1 hs
    exact ⟨i, s, hi, hentry⟩

/-- What a verdict on a program means. -/
def FlowVerdict (steps : List Step) : Except ScriptError Unit → Prop
  | .ok () => FlowSound steps
  | .error e => FlowFault steps e

/-- At the end of the pass the first jump without a label is looked for. -/
theorem checkFlow_nil {steps : List Step} {seen : Targets} {set : List String}
    (h : Seen steps seen set) (hlabels : ∀ i, ¬ FaultyLabel steps i) :
    FlowVerdict steps (checkFlow seen set []) := by
  have hset : ∀ name, name ∈ set ↔ IsSet steps name := by
    intro name
    rw [isSet_iff, h.labels name]
  have hfind : seen.find? (fun t => !set.contains t.1) =
      (steps.find? fun s => (s.entry.destination?.map (·, s.line)).any (!set.contains ·.1)).bind
        fun s => s.entry.destination?.map (·, s.line) := by
    rw [h.jumped (fun name => !set.contains name), jumps, List.find?_filterMap]
  unfold checkFlow
  rw [hfind]
  cases hstep : steps.find? fun s =>
      (s.entry.destination?.map (·, s.line)).any (!set.contains ·.1) with
  | none =>
      refine FlowSound.of_not_faultyLabel hlabels fun i name htarget => ?_
      obtain ⟨s, condition, hs, hentry⟩ := exists_of_targetAt htarget
      have hnone := List.find?_eq_none.1 hstep s (List.mem_of_getElem? hs)
      simpa [hentry, Entry.destination?, hset] using hnone
  | some s =>
      obtain ⟨hs, i, hi, heq, hbefore⟩ := List.find?_eq_some_iff_getElem.1 hstep
      cases hentry : s.entry with
      | jump condition name =>
          have hmissing : ¬ IsSet steps name := by
            simpa [hentry, Entry.destination?, hset] using hs
          simp only [Option.bind_some, hentry, Entry.destination?, Option.map_some]
          refine FlowFault.missing (i := i) (List.getElem?_eq_some_iff.2 ⟨hi, heq⟩) hentry hmissing
            (fun k hk other htarget => ?_) hlabels
          obtain ⟨t, c, ht, ht'⟩ := exists_of_targetAt htarget
          obtain ⟨hk', rfl⟩ := List.getElem?_eq_some_iff.1 ht
          have := hbefore k hk
          simpa [ht', Entry.destination?, hset] using this
      | _ => simp [hentry, Entry.destination?] at hs

/-- The verdict of the pass over the entries that remain. -/
theorem checkFlow_verdict (rest : List Step) {pre : List Step} {seen : Targets}
    {set : List String} (h : Seen pre seen set)
    (hlabels : ∀ i < pre.length, ¬ FaultyLabel (pre ++ rest) i) :
    FlowVerdict (pre ++ rest) (checkFlow seen set rest) := by
  induction rest generalizing pre seen set with
  | nil =>
      simp only [List.append_nil] at hlabels ⊢
      refine checkFlow_nil h fun i => ?_
      rcases Nat.lt_or_ge i pre.length with hlt | hge
      · exact hlabels i hlt
      · rintro ⟨name, hlabel, -⟩
        simp [labelAt, List.getElem?_eq_none hge] at hlabel
  | cons s rest ih =>
      -- The invariant moves past `s` once `s` is known to be no faulty label.
      have next : ∀ {seen' : Targets} {set' : List String}, Seen (pre ++ [s]) seen' set' →
          ¬ FaultyLabel (pre ++ s :: rest) pre.length →
          FlowVerdict (pre ++ s :: rest) (checkFlow seen' set' rest) := by
        intro seen' set' h' hs
        have := ih h'
        rw [List.append_assoc, List.singleton_append] at this
        apply this
        intro i hi
        rcases Nat.lt_succ_iff_lt_or_eq.1 (by simpa using hi) with hlt | rfl
        · exact hlabels i hlt
        · exact hs
      have no_label : s.entry.label? = none → ¬ FaultyLabel (pre ++ s :: rest) pre.length := by
        rintro hnone ⟨name, hlabel, -⟩
        simp [labelAt, hnone] at hlabel
      unfold checkFlow
      cases hentry : s.entry with
      | jump condition target => exact next (h.jump hentry) (no_label (by rw [hentry]; rfl))
      | command plugin command params detached =>
          exact next (h.other (by rw [hentry]; rfl) (by rw [hentry]; rfl))
            (no_label (by rw [hentry]; rfl))
      | assign plugin command params name last =>
          exact next (h.other (by rw [hentry]; rfl) (by rw [hentry]; rfl))
            (no_label (by rw [hentry]; rfl))
      | label name =>
          dsimp only
          have hany : _ ↔ Announced (pre ++ s :: rest) pre.length name := h.any_iff name
          have hmem : _ ↔ SetBefore (pre ++ s :: rest) pre.length name := h.mem_iff name
          split
          · -- Nothing before `s` is faulty, so `s` is the first fault.
            rename_i hnot
            refine .orphan getElem?_length hentry (fun hannounced => ?_) hlabels
            simp [hany.2 hannounced] at hnot
          · rename_i hyes
            have hannounced := hany.1 (by simpa using hyes)
            split
            · rename_i hcontains
              exact .repeated getElem?_length hentry hannounced
                (hmem.1 (List.contains_iff_mem.1 hcontains)) hlabels
            · rename_i hcontains
              refine next (h.label hentry) ?_
              rintro ⟨name', hlabel, hfault⟩
              obtain rfl : name = name' := by
                simpa [labelAt, hentry, Entry.label?] using hlabel
              rcases hfault with hnot | hset
              · exact hnot hannounced
              · exact hcontains (List.contains_iff_mem.2 (hmem.2 hset))

theorem checkControlFlow_verdict (p : Program) : FlowVerdict p.steps p.checkControlFlow :=
  checkFlow_verdict p.steps .start (fun _ hi => absurd hi (Nat.not_lt_zero _))

theorem checkControlFlow_eq_ok_iff (p : Program) :
    p.checkControlFlow = .ok () ↔ FlowSound p.steps := by
  have hverdict := p.checkControlFlow_verdict
  constructor
  · intro h
    rwa [h] at hverdict
  · intro hsound
    cases h : p.checkControlFlow with
    | ok => rfl
    | error e =>
        rw [h] at hverdict
        exact absurd hverdict hsound.not_fault

theorem checkControlFlow_eq_error_iff (p : Program) (e : ScriptError) :
    p.checkControlFlow = .error e ↔ FlowFault p.steps e := by
  have hverdict := p.checkControlFlow_verdict
  constructor
  · intro h
    rwa [h] at hverdict
  · intro hfault
    cases h : p.checkControlFlow with
    | ok =>
        rw [h] at hverdict
        exact absurd hfault hverdict.not_fault
    | error e' =>
        rw [h] at hverdict
        rw [hverdict.unique hfault]

/-! ### The jump that is reported

A map from labels to the places of their first jumps has no order of its own. The fault is the
same in whichever order the map is listed, since the least place is taken. -/

/-- Every label that is jumped to, with the place of the first jump to it. -/
def firstJumps (steps : List Step) : List (String × Nat) :=
  (steps.zipIdx.filterMap fun (s, i) => s.entry.destination?.map (·, i)).filter
    fun (name, i) => !(steps.take i).any (·.entry.destination? == some name)

/-- What a listing of the first jumps leads to: of the jumps without a label the one with the
least place is reported. -/
def leastMissing (steps : List Step) (refs : List (String × Nat)) : Except ScriptError Unit :=
  match (refs.filter fun r => !steps.any (·.entry.label? == some r.1)).argmin (·.2) with
  | none => .ok ()
  | some (name, i) => .error (.labelMissing ((steps[i]?.map (·.line)).getD 0) name)

theorem mem_firstJumps_iff {steps : List Step} {name : String} {i : Nat} :
    (name, i) ∈ firstJumps steps ↔
      targetAt steps i = some name ∧ ¬ Announced steps i name := by
  have hbefore : (steps.take i).any (·.entry.destination? == some name) ↔
      Announced steps i name := by
    simp only [List.any_eq_true, beq_iff_eq, Announced, targetAt, Option.bind_eq_some_iff]
    constructor
    · rintro ⟨s, hs, htarget⟩
      obtain ⟨k, hk⟩ := List.mem_iff_getElem?.1 hs
      rw [List.getElem?_take] at hk
      split at hk
      · exact ⟨k, ‹_›, s, hk, htarget⟩
      · cases hk
    · rintro ⟨k, hk, s, hs, htarget⟩
      exact ⟨s, List.mem_iff_getElem?.2 ⟨k, by rwa [List.getElem?_take_of_lt hk]⟩, htarget⟩
  have hat : (name, i) ∈ steps.zipIdx.filterMap (fun (s, i) => s.entry.destination?.map (·, i)) ↔
      targetAt steps i = some name := by
    simp only [List.mem_filterMap, Prod.exists, List.mem_zipIdx_iff_getElem?,
      Option.map_eq_some_iff, Prod.mk.injEq, targetAt, Option.bind_eq_some_iff]
    constructor
    · rintro ⟨s, _, hs, _, htarget, rfl, rfl⟩
      exact ⟨s, hs, htarget⟩
    · rintro ⟨s, hs, htarget⟩
      exact ⟨s, i, hs, name, htarget, rfl, rfl⟩
  rw [firstJumps, List.mem_filter, hat, ← hbefore, Bool.not_eq_true', Bool.not_eq_true]

/-- A label that is jumped to has a first jump. -/
theorem exists_mem_firstJumps {steps : List Step} {name : String} {i : Nat}
    (h : targetAt steps i = some name) : ∃ k ≤ i, (name, k) ∈ firstJumps steps := by
  induction i using Nat.strong_induction_on with
  | h i ih =>
      by_cases hannounced : Announced steps i name
      · obtain ⟨k, hk, htarget⟩ := hannounced
        obtain ⟨j, hj, hmem⟩ := ih k hk htarget
        exact ⟨j, by omega, hmem⟩
      · exact ⟨i, Nat.le_refl i, mem_firstJumps_iff.2 ⟨h, hannounced⟩⟩

/-- Any listing of the first jumps leads to the verdict of a program without faulty labels. -/
theorem leastMissing_verdict {steps : List Step} {refs : List (String × Nat)}
    (hrefs : refs.Perm (firstJumps steps)) (hlabels : ∀ i, ¬ FaultyLabel steps i) :
    FlowVerdict steps (leastMissing steps refs) := by
  have hset : ∀ name, steps.any (·.entry.label? == some name) ↔ IsSet steps name := by
    intro name
    simp only [List.any_eq_true, beq_iff_eq, isSet_iff, label?_eq_some_iff]
  have hmem : ∀ name i, (name, i) ∈ refs.filter (fun r => !steps.any (·.entry.label? == some r.1)) ↔
      (name, i) ∈ firstJumps steps ∧ ¬ IsSet steps name := by
    intro name i
    rw [List.mem_filter, hrefs.mem_iff, ← hset, Bool.not_eq_true', Bool.not_eq_true]
  unfold leastMissing
  cases hleast : (refs.filter fun r => !steps.any (·.entry.label? == some r.1)).argmin (·.2) with
  | none =>
      refine FlowSound.of_not_faultyLabel hlabels fun i name htarget => ?_
      by_contra hmissing
      obtain ⟨k, -, hk⟩ := exists_mem_firstJumps htarget
      have := (hmem name k).2 ⟨hk, hmissing⟩
      rw [List.argmin_eq_none.1 hleast] at this
      exact absurd this List.not_mem_nil
  | some r =>
      obtain ⟨name, i⟩ := r
      obtain ⟨hfirst, hmissing⟩ := (hmem name i).1 (List.argmin_mem hleast)
      obtain ⟨s, condition, hs, hentry⟩ := exists_of_targetAt (mem_firstJumps_iff.1 hfirst).1
      simp only [hs, Option.map_some, Option.getD_some]
      refine FlowFault.missing hs hentry hmissing (fun k hk other htarget => ?_) hlabels
      by_contra hother
      -- The label of an earlier jump would have been listed with a smaller place.
      obtain ⟨j, hj, hjmem⟩ := exists_mem_firstJumps htarget
      have hle : i ≤ j := List.le_of_mem_argmin ((hmem other j).2 ⟨hjmem, hother⟩) hleast
      omega

/-- The check passes exactly the programs whose labels are set once and after a jump, and whose
jumps have their labels; it reports the one fault that a program has; and the jump that is
reported does not depend on the order in which the first jumps are listed. -/
theorem checkControlFlow_decides (p : Program) :
    (p.checkControlFlow = .ok () ↔ FlowSound p.steps) ∧
      (∀ e, p.checkControlFlow = .error e ↔ FlowFault p.steps e) ∧
      ∀ refs : List (String × Nat), refs.Perm (firstJumps p.steps) →
        (∀ i, ¬ FaultyLabel p.steps i) → p.checkControlFlow = leastMissing p.steps refs := by
  refine ⟨p.checkControlFlow_eq_ok_iff, p.checkControlFlow_eq_error_iff, ?_⟩
  intro refs hrefs hlabels
  have hverdict := leastMissing_verdict hrefs hlabels
  cases h : leastMissing p.steps refs with
  | ok =>
      rw [h] at hverdict
      exact p.checkControlFlow_eq_ok_iff.2 hverdict
  | error e =>
      rw [h] at hverdict
      exact (p.checkControlFlow_eq_error_iff e).2 hverdict

/-- Three labels are jumped to and one is set: the first jump without a label is reported, though
it stands last in the listing. -/
theorem checkControlFlow_first_missing :
    let p : Program := { steps := [⟨1, "GOTO A", .jump "TRUE" "A"⟩, ⟨2, "GOTO B", .jump "TRUE" "B"⟩,
      ⟨3, "LABEL A", .label "A"⟩, ⟨4, "GOTO C", .jump "TRUE" "C"⟩] }
    [("C", 3), ("A", 0), ("B", 1)].Perm (firstJumps p.steps) ∧ (∀ i, ¬ FaultyLabel p.steps i) ∧
      p.checkControlFlow = .error (.labelMissing 2 "B") := by
  intro p
  have hrefs : [("C", 3), ("A", 0), ("B", 1)].Perm (firstJumps p.steps) := by decide
  have hlabels : ∀ i, ¬ FaultyLabel p.steps i := by
    rintro i ⟨name, hlabel, hfault⟩
    match i with
    | 0 | 1 | 3 | _ + 4 => simp [p, labelAt, Entry.label?] at hlabel
    | 2 =>
        obtain rfl : "A" = name := Option.some.inj hlabel
        rcases hfault with hannounced | ⟨k, hk, hset⟩
        · exact hannounced ⟨0, by omega, rfl⟩
        · match k with
          | 0 | 1 => cases hset
  exact ⟨hrefs, hlabels, (checkControlFlow_decides p).2.2 _ hrefs hlabels⟩

end Program

end RigScript
