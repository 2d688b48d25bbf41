import RigScript.Program.Listing
import RigScript.Proofs.Statement.Grammar

/-! ## Statements as lines

A statement is shown as a line, with single blanks between its words. The line is read back as the
statement if the parts of the statement are free of all that would let the line fall into other
parts; and of the statements that are read from a line the parts are free of it. -/

namespace RigScript

open Text

/-- A statement as a line. -/
def Statement.render : Statement → String
  | .load name gate =>
    "LOAD_PLUGIN " ++ name ++
      match gate with
      | some gate => " " ++ gate.render
      | none => ""
  | .constant name text => name ++ " := " ++ text
  | .assign name plugin verb params =>
    name ++ " ?= " ++ plugin ++ "." ++ verb ++ paramsSuffix params
  | .command plugin verb params => plugin ++ "." ++ verb ++ paramsSuffix params
  | .jump condition target => "IF " ++ condition ++ " GOTO " ++ target
  | .label name => "LABEL " ++ name

/-! ### Gates -/

namespace Statement

theorem isComponent_toString (n : UInt32) : IsComponent (toString n).toList n := by
  have htext : (toString n).toList = Nat.toDigits 10 n.toNat := String.toList_ofList
  rw [htext]
  refine ⟨Nat.toDigits_ne_nil, fun c hc => ?_, Nat.ofDigitChars_ten_toDigits⟩
  have hdigit : c.isDigit := Nat.isDigit_of_mem_toDigits (by decide) (by decide) hc
  simpa [Char.isDigit, isDigit, Char.le_def] using hdigit

theorem isGap_blank : IsGap [' '] := ⟨List.cons_ne_nil _ _, List.forall_mem_singleton.2 rfl⟩

theorem isGate_render (g : Gate) : IsGate g.render.toList g := by
  obtain ⟨relation, version⟩ := g
  have hgate : IsGate _ ⟨relation, version⟩ := .gate isGap_blank (isComponent_toString _)
    (isComponent_toString _) (isComponent_toString _) (isComponent_toString _)
  simpa [Gate.render, Version.render] using hgate

end Statement

/-! ### Phrases -/

/-- A text on one line, without blanks at its ends. -/
structure IsPhrase (s : List Char) : Prop where
  trimmed : Trimmed s
  oneLine : '\n' ∉ s

theorem isPhrase_nil : IsPhrase [] := ⟨⟨by simp, by simp⟩, List.not_mem_nil⟩

theorem isPhrase_trimEnd {s : List Char} (hhead : ∀ c ∈ s.head?, isBlank c = false)
    (hline : '\n' ∉ s) : IsPhrase (trimEnd s) :=
  ⟨trimmed_trimEnd hhead, fun hmem => hline (mem_of_mem_trimEnd hmem)⟩

theorem isPhrase_trim {s : List Char} (h : '\n' ∉ trimStart s) : IsPhrase (trim s) :=
  isPhrase_trimEnd (fun _ => head?_trimStart) h

theorem Statement.IsParams.isPhrase {rest : List Char} {params : String}
    (h : IsParams rest params) : IsPhrase params.toList := by
  rw [h.text, String.toList_ofList]
  exact isPhrase_trim h.oneLine

/-- A phrase is found again behind a blank. -/
theorem IsPhrase.trim_cons {s : List Char} (h : IsPhrase s) :
    trimStart (' ' :: s) = s ∧ trim (' ' :: s) = s := by
  have hstart : trimStart (' ' :: s) = s := by
    rw [trimStart_cons, if_pos (by decide), trimStart_of_not_blank h.trimmed.1]
  exact ⟨hstart, by rw [trim, hstart, trimEnd_of_not_blank h.trimmed.2]⟩

/-- What is shown of the parameters is read back. -/
theorem isParams_paramsSuffix {params : String} (h : IsPhrase params.toList) :
    Statement.IsParams (paramsSuffix params).toList params := by
  by_cases hparams : params = ""
  · subst hparams
    exact ⟨by simp [paramsSuffix], by simp [paramsSuffix], rfl⟩
  · obtain ⟨hstart, htrim⟩ := h.trim_cons
    have htext : (paramsSuffix params).toList = ' ' :: params.toList := by
      simp [paramsSuffix, hparams]
    rw [htext]
    refine ⟨by rintro _ ⟨⟩; decide, by rw [hstart]; exact h.oneLine, ?_⟩
    rw [htrim, String.ofList_toList]

/-! ### Jumps that would define a macro -/

namespace Statement

/-- The condition of a jump that lets the line begin like the definition of a macro called `IF`. -/
inductive OpensDefinition : List Char → Prop where
  | constant {rest : List Char} : OpensDefinition (":=".toList ++ rest)
  | assign {space plugin command rest : List Char} (hspace : ∀ c ∈ space, isBlank c)
      (hplugin : isUpperName plugin) (hcommand : isUpperName command)
      (hrest : ∀ c ∈ rest.head?, isBlank c) :
      OpensDefinition ("?=".toList ++ (space ++ (plugin ++ '.' :: (command ++ rest))))

variable {gap condition gap' gap'' name : List Char}

theorem OpensDefinition.head? {s : List Char} (h : OpensDefinition s) :
    ∃ c ∈ s.head?, isNameChar c = false := by
  cases h with
  | constant => exact ⟨_, rfl, by decide⟩
  | assign => exact ⟨_, rfl, by decide⟩

/-- A word without blanks does not reach over a gap. -/
theorem exists_of_append_eq {word rest text tail : List Char} (hgap : IsGap gap)
    (hword : ∀ c ∈ word, isBlank c = false) (h : text ++ (gap ++ tail) = word ++ rest) :
    ∃ r, text = word ++ r ∧ rest = r ++ (gap ++ tail) := by
  rcases List.append_eq_append_iff.1 h with ⟨b, rfl, hb⟩ | ⟨r, rfl, rfl⟩
  · cases b with
    | nil => exact ⟨[], by simp, hb.symm⟩
    | cons c b =>
        have hblank : isBlank c := hgap.head? tail c (by rw [hb]; rfl)
        rw [hword c (by simp)] at hblank
        cases hblank
  · exact ⟨r, rfl, rfl⟩

theorem not_isBlank_of_mem_target {plugin command : List Char} (hplugin : isUpperName plugin)
    (hcommand : isUpperName command) : ∀ c ∈ plugin ++ '.' :: command, isBlank c = false := by
  have hname : ∀ {n : List Char}, isUpperName n → ∀ c ∈ n, isBlank c = false := fun hn c hc =>
    not_isBlank_of_isNameChar (all_isNameChar_of_isName (isName_of_isUpperName hn) c hc)
  intro c hc
  rcases List.mem_append.1 hc with hc | hc
  · exact hname hplugin c hc
  · rcases List.mem_cons.1 hc with rfl | hc
    · decide
    · exact hname hcommand c hc

/-- A command that is addressed before the word of a jump stands in the condition. -/
theorem exists_target_of_append_eq {text space plugin command rest : List Char}
    (hgap' : IsGap gap') (hgap'' : IsGap gap'') (hspace : ∀ c ∈ space, isBlank c)
    (hplugin : isUpperName plugin) (hcommand : isUpperName command)
    (h : text ++ (gap' ++ ("GOTO".toList ++ (gap'' ++ name))) =
      space ++ (plugin ++ '.' :: (command ++ rest))) :
    ∃ space' rest', (∀ c ∈ space', isBlank c) ∧
      text = space' ++ (plugin ++ '.' :: (command ++ rest')) ∧
      rest = rest' ++ (gap' ++ ("GOTO".toList ++ (gap'' ++ name))) := by
  have hword := not_isBlank_of_mem_target hplugin hcommand
  obtain ⟨space', hspace', hsplit⟩ := exists_blanks_trimStart text
  have htail : trimStart (text ++ (gap' ++ ("GOTO".toList ++ (gap'' ++ name)))) =
      (plugin ++ '.' :: command) ++ rest := by
    rw [h, trimStart_append hspace
      (not_isBlank_head?_of_isName (isName_of_isUpperName hplugin) _)]
    simp
  cases htext : trimStart text with
  | nil =>
      -- The target would begin with the word of the jump, which has no point in it.
      have hall : ∀ c ∈ text ++ gap', isBlank c := by
        rw [hsplit, htext, List.append_nil]
        exact List.forall_mem_append.2 ⟨hspace', hgap'.2⟩
      rw [← List.append_assoc, trimStart_append hall (by rintro _ ⟨⟩; decide)] at htail
      obtain ⟨r, hgoto, -⟩ := exists_of_append_eq hgap'' hword htail
      have hdot : '.' ∈ "GOTO".toList := by rw [hgoto]; simp
      exact absurd hdot (by decide)
  | cons c r =>
      have hhead : ∀ d ∈ (c :: r ++ (gap' ++ ("GOTO".toList ++ (gap'' ++ name)))).head?,
          isBlank d = false := by
        rintro _ ⟨⟩
        exact head?_trimStart (s := text) (by rw [htext]; rfl)
      rw [hsplit, htext, List.append_assoc, trimStart_append hspace' hhead] at htail
      obtain ⟨rest', hr, hrest⟩ := exists_of_append_eq hgap' hword htail
      refine ⟨space', rest', hspace', ?_, hrest⟩
      rw [hsplit, htext, hr]
      simp

/-- A jump defines a macro only if its condition opens the definition. -/
theorem opensDefinition_of_written {s : Statement} (hgap : IsGap gap) (hne : condition ≠ [])
    (htrimmed : Trimmed condition) (hgap' : IsGap gap') (hgap'' : IsGap gap'')
    (h : Written ("IF".toList ++ (gap ++ (condition ++ (gap' ++ ("GOTO".toList ++
      (gap'' ++ name)))))) s) (hdefines : s.Defines "IF") : OpensDefinition condition := by
  have hhead : ∀ {tail : List Char}, ∀ c ∈ (condition ++ tail).head?, isBlank c = false := by
    intro tail
    cases condition with
    | nil => exact absurd rfl hne
    | cons d condition => exact htrimmed.1
  generalize hl : "IF".toList ++ (gap ++ (condition ++ (gap' ++ ("GOTO".toList ++
    (gap'' ++ name))))) = l at h
  -- Behind the name and the blanks both readings go on with the same text.
  have hrest : ∀ {n space r : List Char}, String.ofList n = "IF" → (∀ c ∈ space, isBlank c) →
      (∀ c ∈ r.head?, isBlank c = false) → l = n ++ (space ++ r) →
      condition ++ (gap' ++ ("GOTO".toList ++ (gap'' ++ name))) = r := by
    intro n space r hn hspace hr hl'
    obtain rfl : n = "IF".toList := by rw [← hn, String.toList_ofList]
    rw [← hl] at hl'
    have htail := congrArg trimStart (List.append_cancel_left hl')
    rwa [trimStart_append hgap.2 hhead, trimStart_append hspace hr] at htail
  cases h with
  | constant hn hspace _ _ =>
      have htail := hrest hdefines hspace (by rintro _ ⟨⟩; decide) rfl
      obtain ⟨r, rfl, -⟩ := exists_of_append_eq hgap' (by simp [isBlank]) htail
      exact .constant
  | @assign n space space' plugin command rest _ hn hspace hspace' hplugin hcommand hparams =>
      have htail := hrest hdefines hspace (by rintro _ ⟨⟩; decide) rfl
      obtain ⟨r, rfl, hr⟩ := exists_of_append_eq hgap' (by simp [isBlank]) htail
      obtain ⟨space', rest', hspace', rfl, rfl⟩ :=
        exists_target_of_append_eq hgap' hgap'' hspace' hplugin hcommand hr.symm
      refine .assign hspace' hplugin hcommand fun c hc => ?_
      exact hparams.apart c (List.mem_head?_append_of_mem_head? hc)
  | _ => cases hdefines

/-- A jump on one line whose condition opens a definition is a definition. -/
theorem exists_written_of_opensDefinition (hgap : IsGap gap) (hopens : OpensDefinition condition)
    (hgap' : IsGap gap')
    (hline : '\n' ∉ condition ++ (gap' ++ ("GOTO".toList ++ (gap'' ++ name)))) :
    ∃ s, Written ("IF".toList ++ (gap ++ (condition ++ (gap' ++ ("GOTO".toList ++
      (gap'' ++ name)))))) s ∧ s.Defines "IF" := by
  generalize htail : gap' ++ ("GOTO".toList ++ (gap'' ++ name)) = tail at hline ⊢
  have hif : isName "IF".toList := by decide
  cases hopens with
  | @constant rest =>
      have hgoto : 'G' ∈ rest ++ tail := by simp [← htail]
      have hne : trimStart (rest ++ tail) ≠ [] := by
        intro hnil
        obtain ⟨space, hspace, hsplit⟩ := exists_blanks_trimStart (rest ++ tail)
        rw [hnil, List.append_nil] at hsplit
        exact absurd (hspace 'G' (hsplit ▸ hgoto)) (by decide)
      rw [List.append_assoc] at hline ⊢
      have hrest : '\n' ∉ trimStart (rest ++ tail) := fun hmem =>
        hline (List.mem_append_right _ (mem_of_mem_trimStart hmem))
      exact ⟨_, .constant hif hgap.2 hne hrest, rfl⟩
  | @assign space plugin command rest hspace hplugin hcommand hrest =>
      have hsplit : "?=".toList ++ (space ++ (plugin ++ '.' :: (command ++ rest))) ++ tail =
          "?=".toList ++ (space ++ (plugin ++ '.' :: (command ++ (rest ++ tail)))) := by simp
      rw [hsplit] at hline ⊢
      have hparams : IsParams (rest ++ tail) (String.ofList (trim (rest ++ tail))) := by
        refine ⟨fun c hc => ?_, fun hmem => hline ?_, rfl⟩
        · cases rest with
          | nil => exact hgap'.head? _ c (htail ▸ hc)
          | cons d rest => exact hrest c hc
        · have hmem := mem_of_mem_trimStart hmem
          simp [List.mem_append.1 hmem]
      exact ⟨_, .assign hif hgap.2 hspace hplugin hcommand hparams, rfl⟩

/-! ### Statements -/

/-- What is known of a statement that a line was read as. -/
inductive Readable : Statement → Prop where
  | load {name : String} {gate : Option Gate} (hname : isName name.toList) :
      Readable (.load name gate)
  | constant {name text : String} (hname : isName name.toList) (hne : text ≠ "")
      (htext : IsPhrase text.toList) : Readable (.constant name text)
  | assign {name plugin verb params : String} (hname : isName name.toList)
      (hplugin : isUpperName plugin.toList) (hverb : isUpperName verb.toList)
      (hparams : IsPhrase params.toList) : Readable (.assign name plugin verb params)
  | command {plugin verb params : String} (hplugin : isUpperName plugin.toList)
      (hverb : isUpperName verb.toList) (hparams : IsPhrase params.toList) :
      Readable (.command plugin verb params)
  | jump {condition target : String} (hne : condition ≠ "")
      (hcondition : IsPhrase condition.toList) (hopens : ¬ OpensDefinition condition.toList)
      (htarget : isName target.toList) : Readable (.jump condition target)
  | label {name : String} (hname : isName name.toList) : Readable (.label name)

variable {s : Statement} {line : String}

/-- A statement that is read from one line is readable. Of a jump it is known that the line has no
reading as a definition, and this is a matter of its condition. -/
theorem readable_of_parse? (h : parse? line = some s) (hline : '\n' ∉ line.toList) :
    s.Readable := by
  obtain ⟨hwritten, hjump⟩ := written_of_parse? h
  generalize line.toList = l at hwritten hline hjump
  cases hwritten with
  | load _ hname | gated _ hname _ _ => exact .load (by simpa using hname)
  | constant hname _ hne hrest =>
      exact .constant (by simpa using hname) (by simpa using trim_ne_nil hne)
        (by simpa using isPhrase_trim hrest)
  | assign hname _ _ hplugin hcommand hparams =>
      exact .assign (by simpa using hname) (by simpa using hplugin) (by simpa using hcommand)
        hparams.isPhrase
  | command hplugin hcommand hparams =>
      exact .command (by simpa using hplugin) (by simpa using hcommand) hparams.isPhrase
  | always _ hname =>
      have htrue : IsPhrase "TRUE".toList := ⟨⟨by rintro _ ⟨⟩; rfl, by rintro _ ⟨⟩; rfl⟩, by decide⟩
      refine .jump (by decide) htrue ?_ (by simpa using hname)
      intro hopens
      obtain ⟨c, hc, hname⟩ := hopens.head?
      cases hc
      cases hname
  | @jump gap condition gap' gap'' name hgap hne htrimmed hcondition hgap' hgap'' hname =>
      refine .jump (by simpa using hne) (by simpa using ⟨htrimmed, hcondition⟩) ?_
        (by simpa using hname)
      intro hopens
      rw [String.toList_ofList] at hopens
      obtain ⟨s, hwritten, hdefines⟩ := exists_written_of_opensDefinition hgap hopens hgap'
        (fun hmem => hline (List.mem_append_right _ (List.mem_append_right _ hmem)))
      exact hjump trivial s hwritten hdefines
  | label _ hname => exact .label (by simpa using hname)

theorem written_render (h : s.Readable) : Written s.render.toList s := by
  cases h with
  | @load name gate hname =>
      cases gate with
      | none => simpa [render] using Written.load isGap_blank hname
      | some gate =>
          simpa [render] using Written.gated isGap_blank hname isGap_blank (isGate_render gate)
  | @constant name text hname hne htext =>
      obtain ⟨hstart, htrim⟩ := htext.trim_cons
      have hne' : trimStart (' ' :: text.toList) ≠ [] := by simpa [hstart] using hne
      have hwritten := Written.constant hname isGap_blank.2 hne' (hstart.symm ▸ htext.oneLine)
      rw [htrim] at hwritten
      simpa [render] using hwritten
  | assign hname hplugin hverb hparams =>
      simpa [render] using Written.assign hname isGap_blank.2 isGap_blank.2 hplugin hverb
        (isParams_paramsSuffix hparams)
  | command hplugin hverb hparams =>
      simpa [render] using Written.command hplugin hverb (isParams_paramsSuffix hparams)
  | jump hne hcondition _ htarget =>
      simpa [render] using Written.jump isGap_blank (mt String.toList_eq_nil_iff.1 hne)
        hcondition.trimmed hcondition.oneLine isGap_blank isGap_blank htarget
  | label hname => simpa [render] using Written.label isGap_blank hname

/-- The line of a statement is read back as the statement. -/
theorem parse?_render (h : s.Readable) : parse? s.render = some s := by
  refine parse?_of_written (written_render h) ?_
  cases h with
  | @jump condition target hne hcondition hopens htarget =>
      intro _ s hwritten hdefines
      have hline : (jump condition target).render.toList = "IF".toList ++ ([' '] ++
          (condition.toList ++ ([' '] ++ ("GOTO".toList ++ ([' '] ++ target.toList))))) := by
        simp [render]
      rw [hline] at hwritten
      exact hopens (opensDefinition_of_written isGap_blank (mt String.toList_eq_nil_iff.1 hne)
        hcondition.trimmed isGap_blank isGap_blank hwritten hdefines)
  | _ => exact fun hjump => hjump.elim

end Statement

end RigScript
