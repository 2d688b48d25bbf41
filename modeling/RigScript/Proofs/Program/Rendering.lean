import RigScript.Program.Build
import RigScript.Proofs.Statement.Rendering

/-! ## Entries as lines

The line of an entry is the line of a statement. Of a detached command this statement has the mark
`&` behind its parameters, and the mark is split off again when the line is added to a program. -/

namespace RigScript

open Text

/-! ### Marks -/

/-- Parameters with the mark of a detached command behind them. -/
def withMark (params : String) : Bool → String
  | true => if params = "" then "&" else params ++ " &"
  | false => params

theorem splitDetached_cases (s : List Char) :
    splitDetached s = (s, false) ∨ splitDetached s = ([], true) ∨
      ∃ t c, s = t ++ [c, '&'] ∧ splitDetached s = (trimEnd (t ++ [c]), true) := by
  unfold splitDetached
  split
  · exact .inr (.inl rfl)
  · rename_i c r hreverse
    split
    · refine .inr (.inr ⟨r.reverse, c, ?_, ?_⟩)
      · simpa using List.reverse_eq_iff.1 hreverse
      · rw [List.reverse_cons]
    · exact .inl rfl
  · exact .inl rfl

theorem isPhrase_splitDetached {s : List Char} (h : IsPhrase s) : IsPhrase (splitDetached s).1 := by
  rcases splitDetached_cases s with heq | heq | ⟨t, c, rfl, heq⟩
  · rwa [heq]
  · rw [heq]
    exact isPhrase_nil
  · rw [heq]
    have hsplit : t ++ [c, '&'] = (t ++ [c]) ++ ['&'] := by simp
    refine isPhrase_trimEnd (fun d hd => h.trimmed.1 d ?_) (fun hmem => h.oneLine ?_)
    · rw [hsplit]
      exact List.mem_head?_append_of_mem_head? hd
    · rw [hsplit]
      exact List.mem_append_left _ hmem

theorem splitDetached_of_snd {s : List Char} (h : (splitDetached s).2 = false) :
    splitDetached s = (s, false) := by
  rcases splitDetached_cases s with heq | heq | ⟨t, c, rfl, heq⟩
  · exact heq
  · rw [heq] at h
    cases h
  · rw [heq] at h
    cases h

/-- The mark is split off again, and no other one is. -/
theorem splitDetached_withMark {params : String} {detached : Bool} (h : IsPhrase params.toList)
    (hmark : detached = false → (splitDetached params.toList).2 = false) :
    splitDetached (withMark params detached).toList = (params.toList, detached) := by
  cases detached with
  | false => exact splitDetached_of_snd (hmark rfl)
  | true =>
      by_cases hparams : params = ""
      · subst hparams
        rfl
      · have hreverse : (withMark params true).toList.reverse =
            '&' :: ' ' :: params.toList.reverse := by
          simp [withMark, hparams]
        have htrim : trimEnd (params.toList ++ [' ']) = params.toList := by
          rw [trimEnd_append_blank (by decide), trimEnd_of_not_blank h.trimmed.2]
        unfold splitDetached
        rw [hreverse]
        simp [htrim, isBlank]

theorem isPhrase_withMark {params : String} (h : IsPhrase params.toList) (detached : Bool) :
    IsPhrase (withMark params detached).toList := by
  cases detached with
  | false => exact h
  | true =>
      by_cases hparams : params = ""
      · subst hparams
        exact ⟨⟨by rintro _ ⟨⟩; rfl, by rintro _ ⟨⟩; rfl⟩, by decide⟩
      · have htext : (withMark params true).toList = params.toList ++ [' ', '&'] := by
          simp [withMark, hparams]
        rw [htext]
        refine ⟨⟨fun c hc => h.trimmed.1 c ?_, ?_⟩, ?_⟩
        · obtain ⟨d, r, hr⟩ := List.exists_cons_of_ne_nil (mt String.toList_eq_nil_iff.1 hparams)
          rw [hr] at hc ⊢
          exact hc
        · rw [List.getLast?_append]
          rintro _ ⟨⟩
          decide
        · intro hmem
          rcases List.mem_append.1 hmem with hmem | hmem
          · exact h.oneLine hmem
          · revert hmem
            decide

theorem paramsSuffix_withMark (params : String) (detached : Bool) :
    paramsSuffix params ++ (if detached then " &" else "") =
      paramsSuffix (withMark params detached) := by
  cases detached with
  | false => simp [withMark]
  | true =>
      by_cases hparams : params = ""
      · subst hparams
        rfl
      · have hmark : params ++ " &" ≠ "" := by simp
        simp [withMark, paramsSuffix, hparams, String.append_assoc]

/-! ### Entries -/

namespace Entry

/-- The statement that the line of an entry is. -/
def statement : Entry → Statement
  | .command plugin verb params detached => .command plugin verb (withMark params detached)
  | .assign plugin verb params name _ => .assign name plugin verb params
  | .jump condition target => .jump condition target
  | .label name => .label name

/-- What is known of an entry that a line was read as. -/
inductive Readable : Entry → Prop where
  | command {plugin verb params : String} {detached : Bool}
      (h : (Statement.command plugin verb params).Readable)
      (hmark : detached = false → (splitDetached params.toList).2 = false) :
      Readable (.command plugin verb params detached)
  | assign {plugin verb params name : String}
      (h : (Statement.assign name plugin verb params).Readable)
      (hmark : (splitDetached params.toList).2 = false) :
      Readable (.assign plugin verb params name "")
  | jump {condition target : String} (h : (Statement.jump condition target).Readable) :
      Readable (.jump condition target)
  | label {name : String} (h : (Statement.label name).Readable) : Readable (.label name)

variable {e : Entry}

theorem render_eq_statement (e : Entry) : e.render = e.statement.render := by
  cases e with
  | command plugin verb params detached =>
      have hsuffix := paramsSuffix_withMark params detached
      simp only [render, statement, Statement.render, ← hsuffix, String.append_assoc]
  | _ => rfl

theorem Readable.statement (h : e.Readable) : e.statement.Readable := by
  cases h with
  | @command plugin verb params detached h _ =>
      cases h with
      | command hplugin hverb hparams =>
          exact .command hplugin hverb (isPhrase_withMark hparams detached)
  | assign h _ | jump h | label h => exact h

/-- The line of an entry is read back. -/
theorem parse?_render (h : e.Readable) : Statement.parse? e.render = some e.statement := by
  rw [render_eq_statement, Statement.parse?_render h.statement]

end Entry

end RigScript
