import RigScript.Proofs.Macro.Pass

/-! ## What a pass writes

A pass reads a text from left to right. Behind a `$` it takes the longest name there is, and writes
the text of that name if there is one; whatever else it reads it copies, and what it writes it does
not read. This is said here of the texts before and behind the pass, without the pieces that a text
falls into. Expansion is a row of 16 such passes, whatever the table binds: where it stops earlier,
the passes that are left out change nothing. -/

namespace RigScript.MacroTable

open Text

/-- The text behind a pass, by the text before it. -/
inductive Substituted (t : MacroTable) : List Char → List Char → Prop where
  | nil : Substituted t [] []
  /-- A `$` with no name behind it is a character like others. -/
  | char {c : Char} {s s' : List Char} (hc : c = '$' → ∀ d ∈ s.head?, isNameStart d = false)
      (h : Substituted t s s') : Substituted t (c :: s) (c :: s')
  | bound {name s s' : List Char} {text : String} (hname : isName name)
      (hlongest : ∀ d ∈ s.head?, isNameChar d = false)
      (htext : t.get? (String.ofList name) = some text) (h : Substituted t s s') :
      Substituted t ('$' :: (name ++ s)) (text.toList ++ s')
  | unbound {name s s' : List Char} (hname : isName name)
      (hlongest : ∀ d ∈ s.head?, isNameChar d = false)
      (htext : t.get? (String.ofList name) = none) (h : Substituted t s s') :
      Substituted t ('$' :: (name ++ s)) ('$' :: (name ++ s'))

variable {t : MacroTable} {c : Char} {name s s' : List Char} {text : String}

/-! ### One pass -/

theorem pass_char (hc : c = '$' → ∀ d ∈ s.head?, isNameStart d = false) :
    t.pass (c :: s) = c :: t.pass s := by
  have hpieces : Piece.ofChars (c :: s) = .char c :: Piece.ofChars s := by
    by_cases hdollar : c = '$'
    · subst hdollar
      exact Piece.ofChars_dollar_of_none (name?_eq_none (hc rfl))
    · exact Piece.ofChars_cons hdollar s
  rw [pass, hpieces, List.flatMap_cons, value, List.singleton_append, pass]

theorem pass_reference (hname : isName name) (hlongest : ∀ d ∈ s.head?, isNameChar d = false) :
    t.pass ('$' :: (name ++ s)) = t.value (.reference name) ++ t.pass s := by
  have hread : name? (name ++ s) = some (name, s) := name?_eq_some_iff.2 ⟨rfl, hname, hlongest⟩
  rw [pass, Piece.ofChars_dollar_of_some hread, List.flatMap_cons, pass]

theorem substituted_pass (t : MacroTable) (s : List Char) : t.Substituted s (t.pass s) := by
  unfold pass
  fun_induction Piece.ofChars s with
  | case1 => exact .nil
  | case2 r name rest hread ih =>
      obtain ⟨rfl, hname, hlongest⟩ := name?_eq_some_iff.1 hread
      rw [List.flatMap_cons, value]
      cases htext : t.get? (String.ofList name) with
      | some text => exact .bound hname hlongest htext ih
      | none => exact .unbound hname hlongest htext ih
  | case3 r hread ih => exact .char (fun _ => name?_eq_none_iff.1 hread) ih
  | case4 c r hc ih => exact .char (fun hdollar => absurd hdollar hc) ih

/-- A text becomes just one text in a pass. -/
theorem pass_eq_iff : t.pass s = s' ↔ t.Substituted s s' := by
  refine ⟨fun h => h ▸ substituted_pass t s, fun h => ?_⟩
  induction h with
  | nil => exact pass_of_dollar_not_mem List.not_mem_nil
  | char hc _ ih => rw [pass_char hc, ih]
  | bound hname hlongest htext _ ih => rw [pass_reference hname hlongest, ih, value, htext]
  | unbound hname hlongest htext _ ih =>
      rw [pass_reference hname hlongest, ih, value, htext]
      rfl

/-! ### A row of passes -/

theorem iterate_pass_eq {texts : Nat → List Char} {n : Nat}
    (h : ∀ i < n, t.Substituted (texts i) (texts (i + 1))) : t.pass^[n] (texts 0) = texts n := by
  induction n with
  | zero => rfl
  | succ n ih =>
      rw [Function.iterate_succ_apply', ih fun i hi => h i (Nat.lt_succ_of_lt hi)]
      exact pass_eq_iff.2 (h n (Nat.lt_succ_self n))

/-- Expansion is 16 passes, one behind the other, from the line to the outcome. -/
theorem expand_eq_iff_passes (t : MacroTable) (line outcome : String) :
    t.expand line = outcome ↔
      ∃ texts : Nat → List Char, texts 0 = line.toList ∧ texts 16 = outcome.toList ∧
        ∀ i < 16, t.Substituted (texts i) (texts (i + 1)) := by
  rw [← String.toList_inj, toList_expand_eq_iterate]
  constructor
  · intro h
    refine ⟨fun i => t.pass^[i] line.toList, rfl, h, fun i _ => ?_⟩
    dsimp only
    rw [Function.iterate_succ_apply']
    exact substituted_pass t _
  · rintro ⟨texts, hline, houtcome, hpasses⟩
    rw [← hline, ← houtcome]
    exact iterate_pass_eq hpasses

end RigScript.MacroTable
