import RigScript.Proofs.Macro.Order
import RigScript.Proofs.Macro.Pass
import RigScript.Proofs.Program.Build
import RigScript.Proofs.Program.Code
import RigScript.Proofs.Program.Rendering
import RigScript.Proofs.Script.Reading

/-! ## A listing as a script

The declarations and the entries of a program are shown as lines of a script, with all constants
put in. This file shows that these lines are a script for the same program: every line is read back
as what it shows, and what the checks look at is the same. -/

namespace RigScript

open Text

/-- A declaration as a line of a script. -/
def Requirement.render (r : Requirement) : String :=
  "LOAD_PLUGIN " ++ r.name ++
    match r.gate with
    | some gate => " " ++ gate.render
    | none => ""

/-- The lines of a program: what it declares, and then its entries. -/
def Program.script (p : Program) : List String :=
  p.required.map Requirement.render ++ p.steps.map (·.entry.render)

/-- The line of a declaration is read back. -/
theorem Requirement.parse?_render {r : Requirement} (hname : isName r.name.toList) :
    Statement.parse? r.render = some (.load r.name r.gate) := by
  have hrender : r.render = (Statement.load r.name r.gate).render := by
    unfold Requirement.render Statement.render
    cases r.gate <;> rfl
  rw [hrender, Statement.parse?_render (.load hname)]

namespace MacroTable

variable {t t' : MacroTable} {name text : String}

theorem get?_insert (t : MacroTable) (name name' : String) (value : MacroValue) :
    MacroTable.get? (t.insert name value) name' =
      if name' = name then value.bound? else t.get? name' := by
  by_cases h : name' = name <;> simp [get?, NameMap.find?_insert, h]

/-- There are variables only, and none of them has a text. -/
def Unbound (t : MacroTable) : Prop :=
  ∀ name value, t.find? name = some value → value = .variable none

theorem unbound_empty : Unbound {} := by simp [Unbound]

theorem Unbound.get?_eq_none (h : t.Unbound) (name : String) : t.get? name = none := by
  cases hfind : t.find? name with
  | none => simp [get?, hfind]
  | some value => simp [get?, hfind, h name value hfind, MacroValue.bound?]

/-- Every name can be made known where there are no constants. -/
theorem Unbound.register? (h : t.Unbound) (name : String) :
    ∃ t' : MacroTable, t.register? name = some t' ∧ t'.Unbound := by
  unfold MacroTable.register?
  cases hfind : t.find? name with
  | none =>
      refine ⟨_, rfl, fun name' value hvalue => ?_⟩
      rw [NameMap.find?_insert] at hvalue
      split at hvalue
      · exact (Option.some.inj hvalue).symm
      · exact h name' value hvalue
  | some value =>
      obtain rfl := h name value hfind
      exact ⟨_, rfl, h⟩

end MacroTable

namespace Program

variable {p q : Program}

/-! ### What lines lead to -/

/-- What is known of a program whose lines stand on one line each. -/
structure Readable (p : Program) : Prop where
  names : ∀ r ∈ p.required, isName r.name.toList
  distinct : (p.required.map (·.name)).Nodup
  entries : ∀ s ∈ p.steps, s.entry.Readable
  oneLine : ∀ name text, p.macros.get? name = some text → ∀ c ∈ text.toList, c ≠ '\n'

theorem readable_empty : Readable {} := ⟨by simp, by simp, by simp, by simp [MacroTable.get?]⟩

theorem Readable.append (h : p.Readable) {e : Entry} (he : e.Readable) (line : Nat)
    (text : String) : (p.append line text e).Readable where
  names := h.names
  distinct := h.distinct
  entries := List.forall_mem_append.2 ⟨h.entries, List.forall_mem_singleton.2 he⟩
  oneLine := h.oneLine

theorem Readable.insert (h : p.Readable) {name : String} {value : MacroValue}
    (hvalue : ∀ text, value.bound? = some text → ∀ c ∈ text.toList, c ≠ '\n') :
    { p with macros := p.macros.insert name value }.Readable where
  names := h.names
  distinct := h.distinct
  entries := h.entries
  oneLine := by
    intro name' text
    rw [MacroTable.get?_insert]
    split
    · exact hvalue text
    · exact h.oneLine name' text

theorem Readable.require (h : p.Readable) {name : String} (hname : isName name.toList)
    (hnew : p.requirement? name = none) (gate : Option Gate) (line : Nat) :
    Readable { p with required := p.required ++ [⟨name, gate, line⟩] } where
  names := by
    intro r hr
    rcases List.mem_append.1 hr with hr | hr
    · exact h.names r hr
    · obtain rfl := List.mem_singleton.1 hr
      exact hname
  distinct := nodup_require h.distinct hnew gate line
  entries := h.entries
  oneLine := h.oneLine

theorem Readable.addStatement (h : p.Readable) {line : Nat} {text : String} {s : Statement}
    (hs : s.Readable) (hadd : p.addStatement line text s = .ok q) : q.Readable := by
  cases hs with
  | load hname =>
      simp only [Program.addStatement] at hadd
      split at hadd
      · cases hadd
      · rename_i hfree
        cases hadd
        exact h.require hname (by simpa using hfree) _ line
  | constant _ _ htext =>
      simp only [Program.addStatement] at hadd
      split at hadd
      · rename_i macros hdefine
        obtain ⟨-, rfl⟩ := MacroTable.eq_insert_of_define? hdefine
        cases hadd
        refine h.insert ?_
        rintro _ ⟨⟩ _ hc rfl
        exact htext.oneLine hc
      · cases hadd
  | @assign name plugin verb params hname hplugin hverb hparams =>
      simp only [Program.addStatement] at hadd
      split at hadd
      · cases hadd
      · rename_i r hsplit
        have hmark : (splitDetached params.toList).2 = false := congrArg Prod.snd hsplit
        rw [splitDetached_of_snd hmark] at hsplit
        cases hsplit
        rw [String.ofList_toList] at hadd
        have hentry : (Entry.assign plugin verb params name "").Readable :=
          .assign (.assign hname hplugin hverb hparams) hmark
        split at hadd
        · rename_i macros hregister
          cases hadd
          rcases MacroTable.register?_cases hregister with ⟨-, rfl⟩ | ⟨-, rfl⟩
          · exact h.append hentry line text
          · exact (h.insert (by rintro _ ⟨⟩)).append hentry line text
        · cases hadd
  | @command plugin verb params hplugin hverb hparams =>
      simp only [Program.addStatement] at hadd
      cases hadd
      refine h.append (.command (.command hplugin hverb ?_) ?_) line text
      · simpa using isPhrase_splitDetached hparams
      · intro hmark
        rw [splitDetached_of_snd hmark]
        simpa using hmark
  | jump hne hcondition hopens htarget =>
      cases hadd
      exact h.append (.jump (.jump hne hcondition hopens htarget)) line text
  | label hname =>
      cases hadd
      exact h.append (.label (.label hname)) line text

theorem Readable.push (h : p.Readable) {l : Line} (hline : '\n' ∉ l.text.toList)
    (hpush : p.push l = .ok q) : q.Readable := by
  have hexpand : '\n' ∉ (p.macros.expand l.text).toList := fun hmem =>
    MacroTable.forall_mem_expand h.oneLine (fun _ hc heq => hline (heq ▸ hc)) '\n' hmem rfl
  unfold Program.push at hpush
  dsimp only at hpush
  split at hpush
  · cases hpush
  · rename_i s hparse
    exact h.addStatement (Statement.readable_of_parse? hparse hexpand) hpush

theorem readable_of_pushAll {lines : List Line} (hlines : ∀ l ∈ lines, '\n' ∉ l.text.toList)
    (h : pushAll {} lines = .ok p) : p.Readable :=
  pushAll_keeps (fun _ l _ hl hp hpush => hp.push (hlines l hl) hpush) readable_empty h

/-! ### What the lines of a program lead to -/

/-- Where nothing is bound a line is taken as it stands. -/
theorem push_of_parse? {l : Line} {s : Statement} (hp : p.macros.Unbound)
    (hparse : Statement.parse? l.text = some s) :
    p.push l = p.addStatement l.number l.text s := by
  unfold push
  rw [MacroTable.expand_of_unbound hp.get?_eq_none]
  dsimp only
  rw [hparse]

theorem pushAll_append (p : Program) (front back : List Line) :
    p.pushAll (front ++ back) = (p.pushAll front).bind (·.pushAll back) := by
  induction front generalizing p with
  | nil => rfl
  | cons l front ih =>
      rw [List.cons_append, pushAll, pushAll]
      cases p.push l with
      | error e => rfl
      | ok q => exact ih q

/-- A declaration without the line where it stands. -/
def declarations (p : Program) : List (String × Option Gate) :=
  p.required.map fun r => (r.name, r.gate)

theorem pushAll_requirements {lines : List Line} {required : List Requirement}
    (hp : p.macros.Unbound) (hnames : ∀ r ∈ required, isName r.name.toList)
    (hdistinct : (p.required.map (·.name) ++ required.map (·.name)).Nodup)
    (hlines : lines.map (·.text) = required.map Requirement.render) :
    ∃ q, p.pushAll lines = .ok q ∧ q.macros = p.macros ∧ q.steps = p.steps ∧
      q.declarations = p.declarations ++ required.map fun r => (r.name, r.gate) := by
  induction required generalizing p lines with
  | nil =>
      obtain rfl := List.map_eq_nil_iff.1 hlines
      exact ⟨p, rfl, rfl, rfl, by simp⟩
  | cons r required ih =>
      obtain ⟨l, lines, rfl, htext, hlines⟩ := List.map_eq_cons_iff.1 hlines
      obtain ⟨hname, hnames⟩ := List.forall_mem_cons.1 hnames
      have hnew : p.requirement? r.name = none := by
        rw [requirement?_eq_none_iff]
        intro hmem
        exact (List.nodup_append.1 hdistinct).2.2 _ hmem _ List.mem_cons_self rfl
      have hpush : p.push l =
          .ok { p with required := p.required ++ [⟨r.name, r.gate, l.number⟩] } := by
        rw [push_of_parse? hp (htext ▸ Requirement.parse?_render hname)]
        simp [addStatement, hnew]
      obtain ⟨q, hq, hmacros, hsteps, hdeclared⟩ :=
        ih (p := { p with required := p.required ++ [⟨r.name, r.gate, l.number⟩] }) hp hnames
          (by simpa using hdistinct) hlines
      refine ⟨q, ?_, hmacros, hsteps, ?_⟩
      · rw [pushAll, hpush]
        exact hq
      · rw [hdeclared]
        simp [declarations]

/-- The line of an entry adds the entry. -/
theorem push_entry {l : Line} {e : Entry} (hp : p.macros.Unbound) (he : e.Readable)
    (htext : l.text = e.render) :
    ∃ macros : MacroTable, macros.Unbound ∧
      p.push l = .ok ({ p with macros }.append l.number l.text e) := by
  rw [push_of_parse? hp (htext ▸ Entry.parse?_render he)]
  cases he with
  | command h hmark =>
      cases h with
      | command _ _ hparams =>
          refine ⟨p.macros, hp, ?_⟩
          simp [Entry.statement, addStatement, splitDetached_withMark hparams hmark]
  | @assign plugin verb params name h hmark =>
      obtain ⟨macros, hregister, hmacros⟩ := hp.register? name
      refine ⟨macros, hmacros, ?_⟩
      simp [Entry.statement, addStatement, splitDetached_of_snd hmark, hregister]
  | jump | label => exact ⟨p.macros, hp, rfl⟩

theorem pushAll_entries {lines : List Line} {entries : List Entry} (hp : p.macros.Unbound)
    (hentries : ∀ e ∈ entries, e.Readable)
    (hlines : lines.map (·.text) = entries.map Entry.render) :
    ∃ q, p.pushAll lines = .ok q ∧ q.macros.Unbound ∧ q.required = p.required ∧
      q.steps.map (·.entry) = p.steps.map (·.entry) ++ entries := by
  induction entries generalizing p lines with
  | nil =>
      obtain rfl := List.map_eq_nil_iff.1 hlines
      exact ⟨p, rfl, hp, rfl, by simp⟩
  | cons e entries ih =>
      obtain ⟨l, lines, rfl, htext, hlines⟩ := List.map_eq_cons_iff.1 hlines
      obtain ⟨he, hentries⟩ := List.forall_mem_cons.1 hentries
      obtain ⟨macros, hmacros, hpush⟩ := push_entry hp he htext
      obtain ⟨q, hq, hunbound, hrequired, hsteps⟩ :=
        ih (p := { p with macros }.append l.number l.text e) hmacros hentries hlines
      refine ⟨q, ?_, hunbound, hrequired, ?_⟩
      · rw [pushAll, hpush]
        exact hq
      · rw [hsteps]
        simp [append]

/-! ### The same program -/

theorem labelAt_eq_entries (steps : List Step) (i : Nat) :
    labelAt steps i = (steps.map (·.entry))[i]?.bind (·.label?) := by
  simp [labelAt, Option.bind_map]

theorem targetAt_eq_entries (steps : List Step) (i : Nat) :
    targetAt steps i = (steps.map (·.entry))[i]?.bind (·.destination?) := by
  simp [targetAt, Option.bind_map]

section Same

variable (hentries : q.steps.map (·.entry) = p.steps.map (·.entry))
include hentries

/-- Jumps and labels are where they were. -/
theorem checkControlFlow_of_entries (h : p.checkControlFlow = .ok ()) :
    q.checkControlFlow = .ok () := by
  rw [checkControlFlow_eq_ok_iff] at h ⊢
  have hlabel : labelAt q.steps = labelAt p.steps := by
    funext i
    rw [labelAt_eq_entries, hentries, ← labelAt_eq_entries]
  have htarget : targetAt q.steps = targetAt p.steps := by
    funext i
    rw [targetAt_eq_entries, hentries, ← targetAt_eq_entries]
  obtain ⟨honce, hannounced, hcomplete⟩ := h
  simp only [Announced, IsSet, ← hlabel, ← htarget] at honce hannounced hcomplete
  exact ⟨honce, hannounced, hcomplete⟩

/-- The plugins that are declared and those that are addressed are what they were. -/
theorem checkPlugins_of_entries (hdeclarations : q.declarations = p.declarations)
    (h : p.checkPlugins = .ok ()) : q.checkPlugins = .ok () := by
  have hreferenced : q.referenced = p.referenced := by
    have hplugins : ∀ steps : List Step, steps.filterMap (·.entry.plugin?) =
        (steps.map (·.entry)).filterMap Entry.plugin? := by
      intro steps
      rw [List.filterMap_map]
      rfl
    rw [referenced, referenced, hplugins, hplugins, hentries]
  have hdeclared : q.declared = p.declared := by
    have hnames := congrArg (List.map Prod.fst) hdeclarations
    simp only [declarations, List.map_map, Function.comp_def] at hnames
    rw [declared, declared, hnames]
  have hmissing : q.missing = p.missing := by rw [missing, missing, hreferenced, hdeclared]
  unfold checkPlugins at h ⊢
  rw [hmissing]
  split at h
  · rename_i hempty
    rw [if_pos hempty]
  · cases h

/-- The variables of a program that is built are the names that its entries assign. -/
theorem Declared.variableEntries_eq (hq : q.Declared) (hp : p.Declared)
    (hordered : q.macros.Ordered) (hordered' : p.macros.Ordered) :
    q.macros.variableEntries = p.macros.variableEntries := by
  have hresult : ∀ {p : Program} {name : String},
      (∃ s ∈ p.steps, s.entry.result? = some name) ↔
        ∃ e ∈ p.steps.map (·.entry), e.result? = some name := by simp
  refine MacroTable.variableEntries_eq hordered hordered' fun name text => ?_
  cases text with
  | none => rw [hq.assigned, hp.assigned, hresult, hentries, ← hresult]
  | some text => exact iff_of_false (hq.unbound name text) (hp.unbound name text)

end Same

/-- A program that says the same as another one, and has no constants. -/
structure Restates (q p : Program) : Prop where
  declarations : q.declarations = p.declarations
  entries : q.steps.map (·.entry) = p.steps.map (·.entry)
  variableEntries : q.macros.variableEntries = p.macros.variableEntries
  constantEntries : q.macros.constantEntries = []

/-- The lines of a program are read back, one after the other. -/
theorem exists_pushAll_script (h : p.Readable) {lines : List Line}
    (hlines : lines.map (·.text) = p.script) :
    ∃ q, pushAll {} lines = .ok q ∧ q.macros.Unbound ∧ q.declarations = p.declarations ∧
      q.steps.map (·.entry) = p.steps.map (·.entry) := by
  obtain ⟨front, back, rfl, hfront, hback⟩ := List.map_eq_append_iff.1 hlines
  obtain ⟨q₁, hq₁, hmacros, hsteps, hdeclarations⟩ :=
    pushAll_requirements (p := {}) MacroTable.unbound_empty h.names (by simpa using h.distinct)
      hfront
  have hback : back.map (·.text) = (p.steps.map (·.entry)).map Entry.render := by
    rw [hback, List.map_map]
    rfl
  obtain ⟨q, hq, hunbound, hrequired, hentries⟩ :=
    pushAll_entries (p := q₁) (hmacros ▸ MacroTable.unbound_empty) (by simpa using h.entries) hback
  refine ⟨q, ?_, hunbound, ?_, ?_⟩
  · rw [pushAll_append, hq₁]
    exact hq
  · rw [declarations, hrequired]
    exact hdeclarations
  · rw [hentries, hsteps]
    rfl

/-- The declarations and the entries of a program that comes from a script, shown as lines, are a
script for the same program: one with the same declarations, entries and variables, and with all
constants put in. -/
theorem ofLines_script {source : String} {p : Program} (h : ofSource source = .ok p)
    {lines : List Line} (hlines : lines.map (·.text) = p.script) :
    ∃ q, ofLines lines = .ok q ∧ q.Restates p := by
  obtain ⟨read, hread, hp⟩ := ofSource_eq_ok_iff.1 h
  obtain ⟨hpush, hflow, hplugins⟩ := ofLines_eq_ok_iff.1 hp
  have hreadable := readable_of_pushAll (Script.newline_not_mem_of_readLines hread) hpush
  obtain ⟨q, hq, hunbound, hdeclarations, hentries⟩ := exists_pushAll_script hreadable hlines
  have hordered := ordered_of_pushAll hq
  refine ⟨q, ofLines_eq_ok_iff.2 ⟨hq, checkControlFlow_of_entries hentries hflow,
    checkPlugins_of_entries hentries hdeclarations hplugins⟩, hdeclarations, hentries, ?_, ?_⟩
  · exact (declared_of_pushAll hq).variableEntries_eq hentries (declared_of_pushAll hpush) hordered
      (ordered_of_pushAll hpush)
  · refine MacroTable.constantEntries_eq_nil hordered fun name text hfind => ?_
    cases hunbound name _ hfind

/-- A script with a constant, a variable, and a condition that holds the word of a jump. -/
def uartSource : String :=
  "LOAD_PLUGIN UART >= v1.2.0.0\nPORT := 1\nUART.OPEN $PORT &\nREPLY ?= UART.READ\n" ++
    "IF \"$REPLY\" == \"GOTO\" GOTO END\nUART.CLOSE\nLABEL END"

def uartProgram : Program where
  required := [⟨"UART", some ⟨.atLeast, ⟨1, 2, 0, 0⟩⟩, 1⟩]
  macros := ⟨[("PORT", .constant "1"), ("REPLY", .variable none)]⟩
  steps := [⟨3, "UART.OPEN 1 &", .command "UART" "OPEN" "1" true⟩,
    ⟨4, "REPLY ?= UART.READ", .assign "UART" "READ" "" "REPLY" ""⟩,
    ⟨5, "IF \"$REPLY\" == \"GOTO\" GOTO END", .jump "\"$REPLY\" == \"GOTO\"" "END"⟩,
    ⟨6, "UART.CLOSE", .command "UART" "CLOSE" "" false⟩, ⟨7, "LABEL END", .label "END"⟩]

/-- The constant is put in, and the reference to the variable stays. -/
theorem ofLines_script_uart :
    ofSource uartSource = .ok uartProgram ∧
      ∃ q, ofLines [⟨1, "LOAD_PLUGIN UART >= v1.2.0.0"⟩, ⟨2, "UART.OPEN 1 &"⟩,
        ⟨3, "REPLY ?= UART.READ"⟩, ⟨4, "IF \"$REPLY\" == \"GOTO\" GOTO END"⟩, ⟨5, "UART.CLOSE"⟩,
        ⟨6, "LABEL END"⟩] = .ok q ∧ q.Restates uartProgram := by
  have hsource : ofSource uartSource = .ok uartProgram := by decide +kernel
  exact ⟨hsource, ofLines_script hsource (by decide)⟩

end Program

end RigScript
