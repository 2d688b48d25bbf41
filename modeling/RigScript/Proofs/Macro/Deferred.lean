import Mathlib.Algebra.Order.BigOperators.Group.List
import Mathlib.Algebra.Order.Ring.Nat
import RigScript.Proofs.Macro.Pass

/-! ## Expanding twice

A line is expanded when the program is built and its parameters again when they are used, with a
table in which variables have received their texts meanwhile. The two expansions come to the same
as the second alone, as long as the first one keeps apart what it leaves. It does not if a text
that it puts in begins with a name character and stands directly behind a reference that it
leaves: `$V$C` becomes `$Vx` if `C` stands for `x`, and `V` is lost. This file shows that nothing
else goes wrong. -/

namespace RigScript

/-- The text behind the piece would be read as a part of it. -/
def Piece.TakesUp : Piece → List Char → Prop
  | .char c, rest => c = '$' ∧ ∃ d ∈ rest.head?, Text.isNameStart d
  | .reference _, rest => ∃ d ∈ rest.head?, Text.isNameChar d

namespace MacroTable

/-- The piece refers to a variable that has no text yet. -/
def awaits (t : MacroTable) : Piece → Bool
  | .char _ => false
  | .reference name => t.find? (String.ofList name) == some (.variable none)

/-- A pass leaves the piece of these as it is, and writes a text behind it that the piece takes
up. -/
def Extends (t : MacroTable) (ps : List Piece) (p : Piece) : Prop :=
  ∃ front back, ps = front ++ p :: back ∧ t.resolves p = false ∧ p.TakesUp (back.flatMap t.value)

/-- The table has the macros of the other one, and some variables have received a text. -/
def Fills (t t₀ : MacroTable) : Prop :=
  ∀ name, t.find? name = t₀.find? name ∨
    t₀.find? name = some (.variable none) ∧ ∃ text, t.find? name = some (.variable (some text))

theorem extends_cons_iff {t : MacroTable} {q p : Piece} {ps : List Piece} :
    t.Extends (q :: ps) p ↔
      (p = q ∧ t.resolves q = false ∧ q.TakesUp (ps.flatMap t.value)) ∨ t.Extends ps p := by
  constructor
  · rintro ⟨front, back, hpieces, hresolves, htakes⟩
    cases front with
    | nil =>
        obtain ⟨rfl, rfl⟩ := List.cons.inj hpieces
        exact .inl ⟨rfl, hresolves, htakes⟩
    | cons r front => exact .inr ⟨front, back, (List.cons.inj hpieces).2, hresolves, htakes⟩
  · rintro (⟨rfl, hresolves, htakes⟩ | ⟨front, back, rfl, hresolves, htakes⟩)
    · exact ⟨[], ps, rfl, hresolves, htakes⟩
    · exact ⟨q :: front, back, rfl, hresolves, htakes⟩

/-! ### A pass that keeps apart what it leaves -/

/-- What a pass makes of a piece: it remains, or it falls into characters. -/
def settle (t : MacroTable) (p : Piece) : List Piece :=
  if t.resolves p then (t.value p).map .char else [p]

/-- A piece that is not extended stays apart from the text behind it. -/
theorem ofChars_value_append {t : MacroTable} (ht : t.Plain) {p : Piece} (hp : p.WellFormed)
    {rest : List Char} (h : t.resolves p = false → ¬ p.TakesUp rest) :
    Piece.ofChars (t.value p ++ rest) = t.settle p ++ Piece.ofChars rest := by
  cases hresolves : t.resolves p with
  | true => rw [Piece.ofChars_append (dollar_not_mem_value ht hresolves), settle, if_pos hresolves]
  | false =>
      have htakes : ¬ p.TakesUp rest := h hresolves
      rw [value_of_not_resolves hresolves, settle, hresolves, if_neg Bool.false_ne_true]
      cases p with
      | char c =>
          by_cases hc : c = '$'
          · -- A `$` that nothing was taken up by stays alone.
            subst hc
            apply Piece.ofChars_dollar_of_none
            apply Text.name?_eq_none
            intro d hd
            by_contra hstart
            exact htakes ⟨rfl, d, hd, by simpa using hstart⟩
          · exact Piece.ofChars_cons hc rest
      | reference name =>
          have hhead : ∀ d ∈ rest.head?, Text.isNameChar d = false := by
            intro d hd
            by_contra hchar
            exact htakes ⟨d, hd, by simpa using hchar⟩
          obtain ⟨htake, hdrop⟩ := Text.takeWhile_eq_nil_of_head hhead
          apply Piece.ofChars_dollar_of_some
          change Text.name? (name ++ rest) = _
          rw [Text.name?_append hp, htake, hdrop, List.append_nil]

/-- The pieces after the pass are those before it, of which some have fallen into characters. -/
theorem ofChars_flatMap_value {t : MacroTable} (ht : t.Plain) {ps : List Piece}
    (hps : ∀ p ∈ ps, p.WellFormed) (hextends : ∀ p, ¬ t.Extends ps p) :
    Piece.ofChars (ps.flatMap t.value) = ps.flatMap t.settle := by
  induction ps with
  | nil => rw [List.flatMap_nil, List.flatMap_nil, Piece.ofChars]
  | cons p ps ih =>
      have hrest := ih (fun q hq => hps q (List.mem_cons_of_mem p hq))
        (fun q hq => hextends q (extends_cons_iff.2 (.inr hq)))
      have hp : t.resolves p = false → ¬ p.TakesUp (ps.flatMap t.value) :=
        fun hresolves htakes => hextends p (extends_cons_iff.2 (.inl ⟨rfl, hresolves, htakes⟩))
      rw [List.flatMap_cons, List.flatMap_cons,
        ofChars_value_append ht (hps p List.mem_cons_self) hp, hrest]

theorem flatMap_char_value (t : MacroTable) (v : List Char) :
    (v.map Piece.char).flatMap t.value = v := by
  induction v with
  | nil => rfl
  | cons c v ih => rw [List.map_cons, List.flatMap_cons, ih, value, List.singleton_append]

theorem Fills.get?_eq {t t₀ : MacroTable} (h : t.Fills t₀) {name text : String}
    (hbound : t₀.get? name = some text) : t.get? name = some text := by
  rcases h name with heq | ⟨hnone, -⟩
  · rw [← hbound, get?, get?, heq]
  · simp [get?, hnone, MacroValue.bound?] at hbound

theorem Fills.refl (t : MacroTable) : t.Fills t := fun _ => .inl rfl

/-- A text that a pass has put in is the same in every later table. -/
theorem Fills.value_eq {t t₀ : MacroTable} (h : t.Fills t₀) {p : Piece} (hp : t₀.resolves p) :
    t.value p = t₀.value p := by
  cases p with
  | char c => rfl
  | reference name =>
      obtain ⟨text, htext⟩ := Option.isSome_iff_exists.1 hp
      simp only [value, htext, h.get?_eq htext]

/-- If the first pass extends nothing, it is made up for by a later one. -/
theorem pass_pass {t t₀ : MacroTable} (hfills : t.Fills t₀) (ht₀ : t₀.Plain) {s : List Char}
    (h : ∀ p, ¬ t₀.Extends (Piece.ofChars s) p) : t.pass (t₀.pass s) = t.pass s := by
  have hsettle : ∀ p, (t₀.settle p).flatMap t.value = t.value p := by
    intro p
    cases hresolves : t₀.resolves p with
    | true => rw [settle, hresolves, if_pos rfl, flatMap_char_value, hfills.value_eq hresolves]
    | false =>
        rw [settle, hresolves, if_neg Bool.false_ne_true, List.flatMap_cons, List.flatMap_nil,
          List.append_nil]
  have hpieces := ofChars_flatMap_value ht₀ (fun _ hp => Piece.wellFormed_of_mem_ofChars hp) h
  rw [pass, pass, hpieces, List.flatMap_assoc]
  simp only [hsettle, pass]

theorem iterate_pass {t : MacroTable} (ht : t.Plain) {s : List Char}
    (h : ∀ p, ¬ t.Extends (Piece.ofChars s) p) (n : Nat) : t.pass^[n + 1] s = t.pass s := by
  rw [Function.iterate_succ_apply, Function.iterate_fixed (pass_pass (.refl t) ht h)]

theorem expand_expand_of_not_extends {t t₀ : MacroTable} (hfills : t.Fills t₀) (ht₀ : t₀.Plain)
    {text : String} (h : ∀ p, ¬ t₀.Extends (Piece.ofChars text.toList) p) :
    t.expand (t₀.expand text) = t.expand text := by
  apply String.toList_inj.1
  rw [toList_expand_eq_iterate, toList_expand_eq_iterate, toList_expand_eq_iterate]
  calc t.pass^[15 + 1] (t₀.pass^[15 + 1] text.toList)
      = t.pass^[15 + 1] (t₀.pass text.toList) := by rw [iterate_pass ht₀ h]
    _ = t.pass^[15] (t.pass (t₀.pass text.toList)) := Function.iterate_succ_apply _ _ _
    _ = t.pass^[15] (t.pass text.toList) := by rw [pass_pass hfills ht₀ h]
    _ = t.pass^[15 + 1] text.toList := (Function.iterate_succ_apply _ _ _).symm

/-! ### A pass that runs a reference together with a text

When a reference to a variable is extended, some text of the variable tells the two expansions
apart. Let every variable receive a long row of blanks. A blank is no name character, so the later
table extends nothing, and expanding once puts the row in the place of every reference to a
variable. Expanding twice comes to less: a reference that was extended either is no reference to a
variable any more, or has swallowed a character that expanding once keeps. -/

/-- Every variable that has no text receives one. -/
def fill (t : MacroTable) (text : String) : MacroTable where
  entries := t.entries.map fun (name, v) =>
    (name, if v = .variable none then .variable (some text) else v)

theorem find?_fill (t : MacroTable) (text name : String) :
    (t.fill text).find? name =
      (t.find? name).map fun v => if v = .variable none then .variable (some text) else v := by
  unfold NameMap.find? fill
  induction t.entries with
  | nil => rfl
  | cons e r ih =>
      obtain ⟨k, v⟩ := e
      simp only [List.map_cons, NameMap.findIn]
      split
      · rfl
      · exact ih

theorem fills_fill (t : MacroTable) (text : String) : (t.fill text).Fills t := by
  intro name
  rw [find?_fill]
  cases h : t.find? name with
  | none => exact .inl rfl
  | some v =>
      by_cases hv : v = .variable none
      · subst hv
        exact .inr ⟨rfl, text, by simp⟩
      · exact .inl (by simp [hv])

theorem get?_fill (t : MacroTable) (text name : String) :
    (t.fill text).get? name =
      if t.find? name = some (.variable none) then some text else t.get? name := by
  rw [get?, find?_fill, get?]
  cases h : t.find? name with
  | none => rfl
  | some v =>
      by_cases hv : v = .variable none
      · simp [hv, MacroValue.bound?]
      · simp [hv]

theorem resolves_of_awaits {t : MacroTable} {p : Piece} (h : t.awaits p) :
    t.resolves p = false := by
  cases p with
  | char c => rfl
  | reference name =>
      have hnone : t.find? (String.ofList name) = some (.variable none) := by
        simpa [awaits] using h
      simp [resolves, get?, hnone, MacroValue.bound?]

theorem value_fill (t : MacroTable) (text : String) (p : Piece) :
    (t.fill text).value p = if t.awaits p then text.toList else t.value p := by
  cases p with
  | char c => rfl
  | reference name =>
      simp only [value, get?_fill, awaits, beq_iff_eq]
      by_cases h : t.find? (String.ofList name) = some (.variable none)
      · rw [if_pos h, if_pos h]
      · rw [if_neg h, if_neg h]

theorem resolves_fill (t : MacroTable) (text : String) (p : Piece) :
    (t.fill text).resolves p = (t.awaits p || t.resolves p) := by
  cases p with
  | char c => rfl
  | reference name =>
      simp only [resolves, get?_fill, awaits]
      by_cases h : t.find? (String.ofList name) = some (.variable none) <;> simp [h]

/-- A row of blanks. -/
def blankRow (n : Nat) : String := String.ofList (List.replicate n ' ')

/-- A name character that follows in the later table follows in the earlier one too. -/
theorem head?_flatMap_fill {t : MacroTable} {n : Nat} (hn : 0 < n) {ps : List Piece} {d : Char}
    (hd : d ∈ (ps.flatMap (t.fill (blankRow n)).value).head?) (hchar : Text.isNameChar d) :
    d ∈ (ps.flatMap t.value).head? := by
  induction ps with
  | nil => exact hd
  | cons p ps ih =>
      rw [List.flatMap_cons] at hd ⊢
      rw [value_fill] at hd
      split at hd
      · obtain ⟨m, rfl⟩ := Nat.exists_eq_succ_of_ne_zero (Nat.ne_of_gt hn)
        obtain rfl : ' ' = d := by simpa [blankRow, List.replicate_succ] using hd
        exact absurd hchar (by decide)
      · cases hvalue : t.value p with
        | nil =>
            rw [hvalue] at hd
            exact ih hd
        | cons c v =>
            rw [hvalue] at hd
            exact hd

theorem takesUp_flatMap_fill {t : MacroTable} {n : Nat} (hn : 0 < n) {ps : List Piece} {p : Piece}
    (h : p.TakesUp (ps.flatMap (t.fill (blankRow n)).value)) :
    p.TakesUp (ps.flatMap t.value) := by
  cases p with
  | char c =>
      obtain ⟨hc, d, hd, hstart⟩ := h
      exact ⟨hc, d, head?_flatMap_fill hn hd (Text.isNameChar_of_isNameStart hstart), hstart⟩
  | reference name =>
      obtain ⟨d, hd, hchar⟩ := h
      exact ⟨d, head?_flatMap_fill hn hd hchar, hchar⟩

/-- The later table extends no more than the earlier one, and no reference to a variable. -/
theorem Extends.of_fill {t : MacroTable} {n : Nat} (hn : 0 < n) {ps : List Piece} {p : Piece}
    (h : (t.fill (blankRow n)).Extends ps p) : t.Extends ps p ∧ t.awaits p = false := by
  obtain ⟨front, back, rfl, hresolves, htakes⟩ := h
  rw [resolves_fill, Bool.or_eq_false_iff] at hresolves
  exact ⟨⟨front, back, rfl, hresolves.2, takesUp_flatMap_fill hn htakes⟩, hresolves.1⟩

/-- The pieces of a text are as long as they can be. -/
theorem not_takesUp_source {s : List Char} {front back : List Piece} {p : Piece}
    (h : Piece.ofChars s = front ++ p :: back) : ¬ p.TakesUp (back.flatMap Piece.source) := by
  fun_induction Piece.ofChars s generalizing front with
  | case1 => simp at h
  | case2 r name rest hname ih =>
      cases front with
      | nil =>
          -- Putting the sources of the other pieces together gives back what was left to read.
          obtain ⟨rfl, rfl⟩ := List.cons.inj h
          rw [Piece.flatMap_source_ofChars]
          rintro ⟨d, hd, hchar⟩
          rw [Text.not_isNameChar_of_name? hname d hd] at hchar
          cases hchar
      | cons q front => exact ih (List.cons.inj h).2
  | case3 r hname ih =>
      cases front with
      | nil =>
          obtain ⟨rfl, rfl⟩ := List.cons.inj h
          rw [Piece.flatMap_source_ofChars]
          rintro ⟨-, d, hd, hstart⟩
          cases r with
          | nil => cases hd
          | cons c r =>
              obtain rfl : c = d := by simpa using hd
              simp [Text.name?, hstart] at hname
      | cons q front => exact ih (List.cons.inj h).2
  | case4 c r hc ih =>
      cases front with
      | nil =>
          obtain ⟨rfl, rfl⟩ := List.cons.inj h
          rintro ⟨hdollar, -⟩
          exact hc hdollar
      | cons q front => exact ih (List.cons.inj h).2

/-- A pass that puts nothing in extends nothing. -/
theorem not_extends_of_not_resolves {t : MacroTable} {s : List Char}
    (h : ∀ p ∈ Piece.ofChars s, t.resolves p = false) (p : Piece) :
    ¬ t.Extends (Piece.ofChars s) p := by
  rintro ⟨front, back, hpieces, -, htakes⟩
  have hvalue : back.flatMap t.value = back.flatMap Piece.source := by
    refine List.flatMap_congr fun q hq => value_of_not_resolves (h q ?_)
    rw [hpieces]
    exact List.mem_append_right front (List.mem_cons_of_mem p hq)
  rw [hvalue] at htakes
  exact not_takesUp_source hpieces htakes

/-! #### Expanding loses references

A reference counts as many blanks as the row has. Putting in a text that was known at first loses
that much, and putting in the row loses nothing. -/

/-- The blanks of a text, where every `$` stands for a row of them. -/
def blanks (n : Nat) (s : List Char) : Nat := n * s.count '$' + s.count ' '

theorem blanks_flatMap (n : Nat) (f : Piece → List Char) (ps : List Piece) :
    blanks n (ps.flatMap f) = (ps.map fun p => blanks n (f p)).sum := by
  induction ps with
  | nil => simp [blanks]
  | cons p ps ih =>
      rw [List.flatMap_cons, List.map_cons, List.sum_cons, ← ih]
      simp only [blanks, List.count_append, Nat.mul_add]
      omega

/-- The texts of a table have fewer blanks than the row. -/
def FewBlanks (t : MacroTable) (n : Nat) : Prop :=
  ∀ name text, t.get? name = some text → text.toList.count ' ' < n

theorem blanks_source_reference {n : Nat} {name : List Char} (h : Text.isName name) :
    blanks n (Piece.reference name).source = n := by
  have hdollar : name.count '$' = 0 :=
    List.count_eq_zero.2 (Text.dollar_not_mem_of_isName h)
  have hblank : name.count ' ' = 0 := by
    refine List.count_eq_zero.2 fun hmem => ?_
    exact absurd (Text.all_isNameChar_of_isName h ' ' hmem) (by decide)
  simp [blanks, Piece.source, hdollar, hblank]

theorem blanks_value_lt {t : MacroTable} {n : Nat} (ht : t.Plain) (hfew : t.FewBlanks n)
    {p : Piece} (hp : p.WellFormed) (h : t.resolves p) :
    blanks n (t.value p) < blanks n p.source := by
  cases p with
  | char c => cases h
  | reference name =>
      obtain ⟨text, htext⟩ := Option.isSome_iff_exists.1 h
      have hdollar : text.toList.count '$' = 0 := List.count_eq_zero.2 (ht _ _ htext)
      rw [blanks_source_reference hp]
      simpa [value, htext, blanks, hdollar] using hfew _ _ htext

theorem blanks_value_le {t : MacroTable} {n : Nat} (ht : t.Plain) (hfew : t.FewBlanks n)
    {p : Piece} (hp : p.WellFormed) : blanks n (t.value p) ≤ blanks n p.source := by
  cases h : t.resolves p with
  | true => exact Nat.le_of_lt (blanks_value_lt ht hfew hp h)
  | false => rw [value_of_not_resolves h]

theorem blanks_value_fill {t : MacroTable} {n : Nat} {p : Piece} (hp : p.WellFormed) :
    blanks n ((t.fill (blankRow n)).value p) = blanks n (t.value p) := by
  rw [value_fill]
  split
  · rename_i h
    rw [value_of_not_resolves (resolves_of_awaits h)]
    cases p with
    | char c => cases h
    | reference name =>
        rw [blanks_source_reference hp]
        simp [blanks, blankRow, List.count_replicate]
  · rfl

section Pass

variable {t : MacroTable} {n : Nat} (ht : t.Plain) (hfew : t.FewBlanks n)
include ht hfew

theorem blanks_pass_le (s : List Char) : blanks n (t.pass s) ≤ blanks n s := by
  conv_rhs => rw [← Piece.flatMap_source_ofChars s]
  rw [pass, blanks_flatMap, blanks_flatMap]
  exact List.sum_le_sum fun p hp =>
    blanks_value_le ht hfew (Piece.wellFormed_of_mem_ofChars hp)

/-- A pass that loses nothing puts nothing in. -/
theorem not_resolves_of_blanks_pass_eq {s : List Char} (h : blanks n (t.pass s) = blanks n s) :
    ∀ p ∈ Piece.ofChars s, t.resolves p = false := by
  by_contra hcontra
  push Not at hcontra
  obtain ⟨p, hp, hresolves⟩ := hcontra
  have hlt : blanks n (t.pass s) < blanks n s := by
    conv_rhs => rw [← Piece.flatMap_source_ofChars s]
    rw [pass, blanks_flatMap, blanks_flatMap]
    refine List.sum_lt_sum _ _ (fun q hq => ?_) ⟨p, hp, ?_⟩
    · exact blanks_value_le ht hfew (Piece.wellFormed_of_mem_ofChars hq)
    · exact blanks_value_lt ht hfew (Piece.wellFormed_of_mem_ofChars hp) (by simpa using hresolves)
  omega

omit ht hfew in
theorem blanks_pass_fill (s : List Char) :
    blanks n ((t.fill (blankRow n)).pass s) = blanks n (t.pass s) := by
  rw [pass, pass, blanks_flatMap, blanks_flatMap]
  congr 1
  exact List.map_congr_left fun p hp => blanks_value_fill (Piece.wellFormed_of_mem_ofChars hp)

theorem blanks_iterate_le (k : Nat) (s : List Char) : blanks n (t.pass^[k] s) ≤ blanks n s := by
  induction k generalizing s with
  | zero => exact Nat.le_refl _
  | succ k ih =>
      rw [Function.iterate_succ_apply]
      exact (ih _).trans (blanks_pass_le ht hfew s)

theorem blanks_iterate_fill_le (k : Nat) (s : List Char) :
    blanks n ((t.fill (blankRow n)).pass^[k] s) ≤ blanks n s := by
  induction k generalizing s with
  | zero => exact Nat.le_refl _
  | succ k ih =>
      rw [Function.iterate_succ_apply]
      refine (ih _).trans ?_
      rw [blanks_pass_fill]
      exact blanks_pass_le ht hfew s

end Pass

/-! #### An extended reference shows in the length -/

/-- What a piece gains in length when its variable receives the row. -/
def gain (t : MacroTable) (n : Nat) (p : Piece) : Nat :=
  if t.awaits p then n - p.source.length else 0

/-- What a row of pieces gains in length. -/
def gains (t : MacroTable) (n : Nat) (ps : List Piece) : Nat := (ps.map (t.gain n)).sum

theorem gains_cons (t : MacroTable) (n : Nat) (p : Piece) (ps : List Piece) :
    t.gains n (p :: ps) = t.gain n p + t.gains n ps := by
  simp [gains]

theorem gains_chars_append (t : MacroTable) (n : Nat) (v : List Char) (ps : List Piece) :
    t.gains n (v.map .char ++ ps) = t.gains n ps := by
  induction v with
  | nil => rfl
  | cons c v ih =>
      have hgain : t.gain n (.char c) = 0 := rfl
      rw [List.map_cons, List.cons_append, gains_cons, ih, hgain, Nat.zero_add]

theorem length_source_le {s : List Char} {p : Piece} (h : p ∈ Piece.ofChars s) :
    p.source.length ≤ s.length := by
  conv_rhs => rw [← Piece.flatMap_source_ofChars s]
  rw [List.length_flatMap]
  exact List.single_le_sum (by simp) _ (List.mem_map.2 ⟨p, h, rfl⟩)

theorem length_value_fill {t : MacroTable} {n : Nat} {p : Piece} (h : p.source.length ≤ n) :
    ((t.fill (blankRow n)).value p).length = (t.value p).length + t.gain n p := by
  rw [value_fill, gain]
  split
  · rename_i hawaits
    rw [value_of_not_resolves (resolves_of_awaits hawaits), blankRow, String.toList_ofList,
      List.length_replicate]
    omega
  · rfl

theorem length_pass_fill (t : MacroTable) {n : Nat} {s : List Char} (h : s.length ≤ n) :
    ((t.fill (blankRow n)).pass s).length =
      (t.pass s).length + t.gains n (Piece.ofChars s) := by
  have hsource : ∀ p ∈ Piece.ofChars s, p.source.length ≤ n :=
    fun p hp => (length_source_le hp).trans h
  rw [pass, pass, gains]
  generalize Piece.ofChars s = ps at hsource
  induction ps with
  | nil => rfl
  | cons p ps ih =>
      have hrest := ih fun q hq => hsource q (List.mem_cons_of_mem p hq)
      have hp := length_value_fill (t := t) (hsource p List.mem_cons_self)
      simp only [List.flatMap_cons, List.length_append, List.map_cons, List.sum_cons]
      omega

theorem gains_settle (t : MacroTable) (n : Nat) (p : Piece) (ps : List Piece) :
    t.gains n (t.settle p ++ ps) = t.gain n p + t.gains n ps := by
  rw [settle]
  split
  · rename_i hresolves
    have hgain : t.gain n p = 0 := by
      rw [gain, if_neg]
      intro hawaits
      rw [resolves_of_awaits hawaits] at hresolves
      cases hresolves
    rw [gains_chars_append, hgain, Nat.zero_add]
  · rw [List.singleton_append, gains_cons]

/-- A reference that is extended gains less than before, or nothing. -/
theorem gains_reference_append {t : MacroTable} {n : Nat} {name rest : List Char}
    (hname : Text.isName name) (hawaits : t.awaits (.reference name))
    (hlength : (Piece.reference name).source.length < n)
    (htakes : (Piece.reference name).TakesUp rest) :
    t.gains n (Piece.ofChars ('$' :: (name ++ rest))) <
      t.gain n (.reference name) + t.gains n (Piece.ofChars rest) := by
  have hsplit : rest = rest.takeWhile Text.isNameChar ++ rest.dropWhile Text.isNameChar :=
    List.takeWhile_append_dropWhile.symm
  -- The reference swallows the name characters of `rest`, which gained nothing there.
  have hplain : '$' ∉ rest.takeWhile Text.isNameChar := by
    intro hmem
    have := List.all_eq_true.1 List.all_takeWhile _ hmem
    rw [Text.not_isNameChar_dollar] at this
    cases this
  have hrest : t.gains n (Piece.ofChars rest) =
      t.gains n (Piece.ofChars (rest.dropWhile Text.isNameChar)) := by
    conv_lhs => rw [hsplit, Piece.ofChars_append hplain, gains_chars_append]
  have hpos : 0 < (rest.takeWhile Text.isNameChar).length := by
    obtain ⟨d, hd, hchar⟩ := htakes
    cases rest with
    | nil => cases hd
    | cons c rest =>
        obtain rfl : c = d := by simpa using hd
        simp [hchar]
  rw [Piece.ofChars_dollar_of_some (Text.name?_append hname rest), gains_cons, hrest]
  simp only [gain, hawaits, if_true]
  simp only [Piece.source, List.length_cons, List.length_append] at hlength ⊢
  split <;> omega

/-- After the pass the row gains no more than before it, and less if a reference was extended. -/
theorem gains_flatMap_value {t : MacroTable} (ht : t.Plain) {n : Nat} {ps : List Piece}
    (hps : ∀ p ∈ ps, p.WellFormed) (hlength : ∀ p ∈ ps, p.source.length < n)
    (hawaits : ∀ p, t.Extends ps p → t.awaits p) :
    t.gains n (Piece.ofChars (ps.flatMap t.value)) ≤ t.gains n ps ∧
      ∀ p, t.Extends ps p → t.gains n (Piece.ofChars (ps.flatMap t.value)) < t.gains n ps := by
  induction ps with
  | nil =>
      rw [List.flatMap_nil, Piece.ofChars]
      refine ⟨Nat.le_refl _, ?_⟩
      rintro p ⟨front, back, hnil, -⟩
      simp at hnil
  | cons q ps ih =>
      obtain ⟨hle, hlt⟩ := ih (fun p hp => hps p (List.mem_cons_of_mem q hp))
        (fun p hp => hlength p (List.mem_cons_of_mem q hp))
        (fun p hp => hawaits p (extends_cons_iff.2 (.inr hp)))
      have hq : q.WellFormed := hps q List.mem_cons_self
      rw [List.flatMap_cons, gains_cons]
      -- Either `q` is extended and loses some of its gain, or it stays apart from the rest.
      by_cases hextended : t.resolves q = false ∧ q.TakesUp (ps.flatMap t.value)
      · obtain ⟨hresolves, htakes⟩ := hextended
        have hq' := hawaits q (extends_cons_iff.2 (.inl ⟨rfl, hresolves, htakes⟩))
        have hless : t.gains n (Piece.ofChars (t.value q ++ ps.flatMap t.value)) <
            t.gain n q + t.gains n ps := by
          cases q with
          | char c => cases hq'
          | reference name =>
              rw [value_of_not_resolves hresolves]
              exact (gains_reference_append hq hq' (hlength _ List.mem_cons_self) htakes).trans_le
                (Nat.add_le_add_left hle _)
        exact ⟨Nat.le_of_lt hless, fun _ _ => hless⟩
      · have happend := ofChars_value_append ht hq fun hresolves htakes =>
          hextended ⟨hresolves, htakes⟩
        rw [happend, gains_settle]
        refine ⟨by omega, fun p hp => ?_⟩
        rcases extends_cons_iff.1 hp with ⟨-, hresolves, htakes⟩ | hp'
        · exact absurd ⟨hresolves, htakes⟩ hextended
        · have := hlt p hp'
          omega

theorem mem_entries_of_find? {t : MacroTable} {name : String} {v : MacroValue}
    (h : t.find? name = some v) : (name, v) ∈ t.entries := by
  unfold NameMap.find? at h
  generalize t.entries = l at h
  induction l with
  | nil => cases h
  | cons e l ih =>
      obtain ⟨k, w⟩ := e
      rw [NameMap.findIn] at h
      split at h
      · rename_i hk
        cases h
        rw [hk]
        exact List.mem_cons_self
      · exact List.mem_cons_of_mem _ (ih h)

/-- A number of blanks that no text of the table has. -/
theorem exists_fewBlanks (t : MacroTable) : ∃ n, t.FewBlanks n := by
  let size (e : String × MacroValue) : Nat := (e.2.bound?.getD "").toList.length
  refine ⟨(t.entries.map size).sum + 1, fun name text htext => ?_⟩
  obtain ⟨v, hv, hbound⟩ := Option.bind_eq_some_iff.1 htext
  have hsize : size (name, v) ≤ (t.entries.map size).sum :=
    List.single_le_sum (by simp) _ (List.mem_map.2 ⟨_, mem_entries_of_find? hv, rfl⟩)
  have hcount : text.toList.count ' ' ≤ text.toList.length := List.count_le_length
  have : size (name, v) = text.toList.length := by simp [size, hbound]
  omega

theorem FewBlanks.mono {t : MacroTable} {m n : Nat} (h : t.FewBlanks m) (hmn : m ≤ n) :
    t.FewBlanks n :=
  fun name text htext => (h name text htext).trans_le hmn

theorem Plain.fill {t : MacroTable} (ht : t.Plain) (n : Nat) : (t.fill (blankRow n)).Plain := by
  intro name text htext
  rw [get?_fill] at htext
  split at htext
  · obtain rfl : blankRow n = text := by simpa using htext
    intro hdollar
    rw [blankRow, String.toList_ofList] at hdollar
    exact absurd (List.eq_of_mem_replicate hdollar) (by decide)
  · exact ht name text htext

/-- If a reference to a variable is extended, a long row of blanks tells the two expansions
apart. -/
theorem expand_fill_ne {t : MacroTable} (ht : t.Plain) {text : String}
    (hawaits : ∀ p, t.Extends (Piece.ofChars text.toList) p → t.awaits p) {p : Piece}
    (hp : t.Extends (Piece.ofChars text.toList) p) {n : Nat} (hfew : t.FewBlanks n)
    (htext : text.toList.length < n) (hpass : (t.pass text.toList).length ≤ n) :
    (t.fill (blankRow n)).expand (t.expand text) ≠ (t.fill (blankRow n)).expand text := by
  have hn : 0 < n := Nat.zero_lt_of_lt htext
  intro hequal
  have hiterates := congrArg String.toList hequal
  rw [toList_expand_eq_iterate, toList_expand_eq_iterate, toList_expand_eq_iterate,
    show maxPasses = 15 + 1 from rfl] at hiterates
  generalize hlater : t.fill (blankRow n) = later at hiterates
  generalize text.toList = s at *
  have hlater_plain : later.Plain := hlater ▸ ht.fill n
  -- Expanding once takes one pass, since the later table extends nothing.
  have honce : later.pass^[15 + 1] s = later.pass s := by
    apply iterate_pass hlater_plain
    intro q hq
    obtain ⟨hextends, hq'⟩ := (hlater ▸ hq : (t.fill (blankRow n)).Extends _ q).of_fill hn
    rw [hawaits q hextends] at hq'
    cases hq'
  -- Expanding twice to the same loses no reference after the first pass.
  have hkept : blanks n (t.pass (t.pass s)) = blanks n (t.pass s) := by
    apply Nat.le_antisymm (blanks_pass_le ht hfew _)
    calc blanks n (t.pass s)
        = blanks n (later.pass s) := by rw [← hlater, blanks_pass_fill]
      _ = blanks n (later.pass^[15 + 1] (t.pass^[15 + 1] s)) := by rw [← honce, hiterates]
      _ ≤ blanks n (t.pass^[15 + 1] s) := hlater ▸ blanks_iterate_fill_le ht hfew _ _
      _ = blanks n (t.pass^[14] (t.pass (t.pass s))) := rfl
      _ ≤ blanks n (t.pass (t.pass s)) := blanks_iterate_le ht hfew _ _
  have hresolves := not_resolves_of_blanks_pass_eq ht hfew hkept
  have hearlier : t.pass^[15 + 1] s = t.pass s := by
    rw [Function.iterate_succ_apply, Function.iterate_fixed (pass_of_not_resolves hresolves)]
  have htwice : later.pass^[15 + 1] (t.pass s) = later.pass (t.pass s) := by
    apply iterate_pass hlater_plain
    intro q hq
    have hextends := ((hlater ▸ hq : (t.fill (blankRow n)).Extends _ q).of_fill hn).1
    exact not_extends_of_not_resolves hresolves q hextends
  have hpasses : later.pass (t.pass s) = later.pass s := by
    rw [← htwice, ← honce, ← hearlier]
    exact hiterates
  -- So the two differ by what the row gains, and the extended reference gains less.
  have hlength := congrArg List.length hpasses
  rw [← hlater, length_pass_fill t hpass, length_pass_fill t (Nat.le_of_lt htext),
    pass_of_not_resolves hresolves] at hlength
  have hgains := (gains_flatMap_value ht (n := n)
    (fun q hq => Piece.wellFormed_of_mem_ofChars hq)
    (fun q hq => (length_source_le hq).trans_lt htext) hawaits).2 p hp
  rw [pass] at hlength
  omega

/-- A line that is expanded at once and again later comes to the same as one that is only
expanded later, whatever the variables receive meanwhile, exactly if the first pass extends
nothing. That nothing else is extended than references to variables holds of any line in which
every `$` begins a reference to a macro of the table, and of any line if nothing is extended. -/
theorem expand_expand_iff_not_extends {t₀ : MacroTable} (ht₀ : t₀.Plain) {text : String}
    (hawaits : ∀ p, t₀.Extends (Piece.ofChars text.toList) p → t₀.awaits p) :
    (∀ t : MacroTable, t.Fills t₀ → t.Plain → t.expand (t₀.expand text) = t.expand text) ↔
      ∀ p, ¬ t₀.Extends (Piece.ofChars text.toList) p := by
  constructor
  · intro hall p hp
    obtain ⟨m, hfew⟩ := t₀.exists_fewBlanks
    let n := m + text.toList.length + 1 + (t₀.pass text.toList).length
    have hne := expand_fill_ne ht₀ hawaits hp (n := n) (hfew.mono (by omega)) (by omega) (by omega)
    exact hne (hall _ (fills_fill t₀ _) (ht₀.fill n))
  · intro hextends t hfills _
    exact expand_expand_of_not_extends hfills ht₀ hextends

/-- A constant `C` and a variable `V` that has no text yet. -/
def earlyTable : MacroTable := ⟨[("C", .constant "x"), ("V", .variable none)]⟩

/-- A variable behind the constant is filled in later, and one before it is lost. -/
theorem expand_expand_earlyTable :
    (∀ t : MacroTable, t.Fills earlyTable → t.Plain →
      t.expand (earlyTable.expand "$C$V") = t.expand "$C$V") ∧
    ¬ ∀ t : MacroTable, t.Fills earlyTable → t.Plain →
      t.expand (earlyTable.expand "$V$C") = t.expand "$V$C" := by
  have hplain : earlyTable.Plain := by
    intro name text htext
    by_cases hC : name = "C"
    · subst hC
      obtain rfl : "x" = text := Option.some.inj htext
      decide
    · by_cases hV : name = "V" <;>
        simp [get?, NameMap.find?, NameMap.findIn, earlyTable, MacroValue.bound?, hC, hV] at htext
  have hbehind : Piece.ofChars "$C$V".toList = [.reference ['C'], .reference ['V']] := by cbv
  have hbefore : Piece.ofChars "$V$C".toList = [.reference ['V'], .reference ['C']] := by cbv
  have hC : earlyTable.resolves (.reference ['C']) = true := by decide
  have hV : earlyTable.resolves (.reference ['V']) = false := by decide
  have hnil : ∀ p, ¬ earlyTable.Extends [] p := by
    rintro p ⟨front, back, hpieces, -⟩
    simp at hpieces
  constructor
  · have hnone : ∀ p, ¬ earlyTable.Extends (Piece.ofChars "$C$V".toList) p := by
      intro p hp
      rw [hbehind, extends_cons_iff, extends_cons_iff] at hp
      simp [hC, hnil, Piece.TakesUp] at hp
    exact (expand_expand_iff_not_extends hplain fun p hp => absurd hp (hnone p)).2 hnone
  · have hawaits : ∀ p, earlyTable.Extends (Piece.ofChars "$V$C".toList) p →
        earlyTable.awaits p := by
      intro p hp
      rw [hbefore, extends_cons_iff, extends_cons_iff] at hp
      rcases hp with ⟨rfl, -⟩ | ⟨-, hresolves, -⟩ | hp
      · decide
      · rw [hC] at hresolves
        cases hresolves
      · exact absurd hp (hnil p)
    intro hall
    apply (expand_expand_iff_not_extends hplain hawaits).1 hall (.reference ['V'])
    rw [hbefore]
    exact extends_cons_iff.2 (.inl ⟨rfl, hV, 'x', by decide, by decide⟩)

end MacroTable

end RigScript
