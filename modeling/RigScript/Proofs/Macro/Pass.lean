import Mathlib.Logic.Function.Iterate
import RigScript.Macro.Expand
import RigScript.Proofs.Text.Readers

/-! ## Laws of a pass

How a text falls into pieces, and what a pass makes of them. Expansion is an iteration of the
pass: that it stops early changes nothing. -/

namespace RigScript

/-! ### Pieces -/

namespace Piece

/-- A reference is made with a name. -/
def WellFormed : Piece → Prop
  | .char _ => True
  | .reference name => Text.isName name

theorem ofChars_cons {c : Char} (hc : c ≠ '$') (s : List Char) :
    ofChars (c :: s) = .char c :: ofChars s := by
  rw [ofChars, if_neg hc]

theorem ofChars_dollar_of_none {s : List Char} (h : Text.name? s = none) :
    ofChars ('$' :: s) = .char '$' :: ofChars s := by
  rw [ofChars, if_pos rfl]
  split
  · rename_i h'
    rw [h] at h'
    cases h'
  · rfl

theorem ofChars_dollar_of_some {s name rest : List Char} (h : Text.name? s = some (name, rest)) :
    ofChars ('$' :: s) = .reference name :: ofChars rest := by
  rw [ofChars, if_pos rfl]
  split
  · rename_i h'
    rw [h] at h'
    cases h'
    rfl
  · rename_i h'
    rw [h] at h'
    cases h'

/-- Plain text in front stands for itself. -/
theorem ofChars_append {v : List Char} (hv : '$' ∉ v) (s : List Char) :
    ofChars (v ++ s) = v.map Piece.char ++ ofChars s := by
  induction v with
  | nil => rfl
  | cons c v ih =>
      have hc : c ≠ '$' := fun heq => hv (by simp [heq])
      have hv' : '$' ∉ v := fun hmem => hv (List.mem_cons_of_mem c hmem)
      rw [List.cons_append, ofChars_cons hc, ih hv', List.map_cons, List.cons_append]

theorem wellFormed_of_mem_ofChars {s : List Char} {p : Piece} (h : p ∈ ofChars s) :
    p.WellFormed := by
  fun_induction ofChars s with
  | case1 => cases h
  | case2 r name rest hname ih =>
      rcases List.mem_cons.1 h with rfl | hmem
      · exact Text.isName_of_name? hname
      · exact ih hmem
  | case3 r hname ih =>
      rcases List.mem_cons.1 h with rfl | hmem
      · trivial
      · exact ih hmem
  | case4 c r hc ih =>
      rcases List.mem_cons.1 h with rfl | hmem
      · trivial
      · exact ih hmem

end Piece

namespace Text

theorem not_isNameChar_dollar : isNameChar '$' = false := by decide

/-- A name is a plain text. -/
theorem dollar_not_mem_of_isName {n : List Char} (h : isName n) : '$' ∉ n := by
  intro hmem
  have := all_isNameChar_of_isName h '$' hmem
  rw [not_isNameChar_dollar] at this
  cases this

end Text

/-! ### Passes -/

namespace MacroTable

/-- No text that the table puts in holds a `$`. -/
def Plain (t : MacroTable) : Prop :=
  ∀ name text, t.get? name = some text → '$' ∉ text.toList

/-- The piece refers to a macro that has a text. -/
def resolves (t : MacroTable) : Piece → Bool
  | .char _ => false
  | .reference name => (t.get? (String.ofList name)).isSome

theorem value_of_not_resolves {t : MacroTable} {p : Piece} (h : t.resolves p = false) :
    t.value p = p.source := by
  cases p with
  | char c => rfl
  | reference name =>
      have hnone : t.get? (String.ofList name) = none := by simpa [resolves] using h
      simp [value, hnone, Piece.source]

theorem dollar_not_mem_value {t : MacroTable} (ht : t.Plain) {p : Piece} (h : t.resolves p) :
    '$' ∉ t.value p := by
  cases p with
  | char c => cases h
  | reference name =>
      obtain ⟨text, htext⟩ := Option.isSome_iff_exists.1 h
      simpa [value, htext] using ht _ _ htext

/-- A text that refers to no bound macro stays as it is. -/
theorem pass_of_not_resolves {t : MacroTable} {s : List Char}
    (h : ∀ p ∈ Piece.ofChars s, t.resolves p = false) : t.pass s = s := by
  have hvalue : (Piece.ofChars s).flatMap t.value = (Piece.ofChars s).flatMap Piece.source :=
    List.flatMap_congr fun p hp => value_of_not_resolves (h p hp)
  rw [pass, hvalue, Piece.flatMap_source_ofChars]

theorem pass_of_dollar_not_mem {t : MacroTable} {s : List Char} (h : '$' ∉ s) : t.pass s = s := by
  apply pass_of_not_resolves
  intro p hp
  have hpieces := Piece.ofChars_append h []
  rw [List.append_nil] at hpieces
  rw [hpieces, Piece.ofChars, List.append_nil] at hp
  obtain ⟨c, -, rfl⟩ := List.mem_map.1 hp
  rfl

/-- What holds of the characters of a text and of all that is put in, holds of the outcome. -/
theorem forall_mem_pass {t : MacroTable} {P : Char → Prop} {s : List Char}
    (ht : ∀ name text, t.get? name = some text → ∀ c ∈ text.toList, P c) (hs : ∀ c ∈ s, P c) :
    ∀ c ∈ t.pass s, P c := by
  intro c hc
  obtain ⟨p, hp, hc⟩ := List.mem_flatMap.1 hc
  have hsource : ∀ d ∈ p.source, P d := fun d hd =>
    hs d (by rw [← Piece.flatMap_source_ofChars s]; exact List.mem_flatMap.2 ⟨p, hp, hd⟩)
  by_cases hresolves : t.resolves p
  · cases p with
    | char _ => cases hresolves
    | reference name =>
        obtain ⟨text, htext⟩ := Option.isSome_iff_exists.1 hresolves
        rw [value, htext] at hc
        exact ht _ _ htext c hc
  · rw [value_of_not_resolves (Bool.eq_false_iff.2 hresolves)] at hc
    exact hsource c hc

/-- Stopping early changes nothing: expansion is an iteration of the pass. -/
theorem passes_eq_iterate (t : MacroTable) (n : Nat) (s : List Char) :
    t.passes n s = t.pass^[n] s := by
  induction n generalizing s with
  | zero => rfl
  | succ n ih =>
      unfold passes
      split
      · rename_i hdollar
        rw [Function.iterate_fixed (pass_of_dollar_not_mem hdollar)]
      · split
        · rename_i hfixed
          rw [Function.iterate_fixed hfixed]
        · rw [ih, Function.iterate_succ_apply]

theorem toList_expand_eq_iterate (t : MacroTable) (text : String) :
    (t.expand text).toList = t.pass^[maxPasses] text.toList := by
  rw [toList_expand, passes_eq_iterate]

theorem forall_mem_expand {t : MacroTable} {P : Char → Prop} {text : String}
    (ht : ∀ name text, t.get? name = some text → ∀ c ∈ text.toList, P c)
    (htext : ∀ c ∈ text.toList, P c) : ∀ c ∈ (t.expand text).toList, P c := by
  rw [toList_expand_eq_iterate]
  exact Function.Iterate.rec (fun s => ∀ c ∈ s, P c) htext (fun _ => forall_mem_pass ht) maxPasses

/-- A text without `$` refers to nothing. -/
theorem expand_of_dollar_not_mem (t : MacroTable) {text : String} (h : '$' ∉ text.toList) :
    t.expand text = text := by
  rw [← String.toList_inj, toList_expand_eq_iterate,
    Function.iterate_fixed (pass_of_dollar_not_mem h)]

/-- A table in which nothing is bound changes no text. -/
theorem expand_of_unbound {t : MacroTable} (ht : ∀ name, t.get? name = none) (text : String) :
    t.expand text = text := by
  have hpass : t.pass text.toList = text.toList := by
    refine pass_of_not_resolves fun p _ => ?_
    cases p with
    | char _ => rfl
    | reference name => simp [resolves, ht]
  rw [← String.toList_inj, toList_expand_eq_iterate, Function.iterate_fixed hpass]

end MacroTable

end RigScript
