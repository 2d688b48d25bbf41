import RigScript.Proofs.Macro.Pass

/-! ## Texts that are expanded to the end

If the texts of a table hold no `$`, a pass loses one `$` for each reference that it resolves, and
no new one comes. A pass can make new references, where a `$` that it leaves meets a text that it
puts in, but there is a `$` in each of them. So a line has no more passes to go than it has `$`, and
16 passes are enough for 16 of them: what is left then refers to nothing that has a text. -/

namespace RigScript

/-- A `$` stands in the text before the name, and the name is as long as it can be there. -/
def RefersTo (s name : List Char) : Prop :=
  ∃ before after, s = before ++ '$' :: (name ++ after) ∧ Text.isName name ∧
    ∀ c ∈ after.head?, Text.isNameChar c = false

namespace Piece

/-- A `$` begins a new piece, whatever stands before it. -/
theorem ofChars_append_dollar (s r : List Char) :
    ofChars (s ++ '$' :: r) = ofChars s ++ ofChars ('$' :: r) := by
  fun_induction ofChars s with
  | case1 => rfl
  | case2 s name rest hread ih =>
      obtain ⟨rfl, hname, hlongest⟩ := Text.name?_eq_some_iff.1 hread
      have hnext : ∀ c ∈ (rest ++ '$' :: r).head?, Text.isNameChar c = false := by
        cases rest with
        | nil =>
            rintro _ ⟨⟩
            exact Text.not_isNameChar_dollar
        | cons d rest => exact hlongest
      have hread' : Text.name? (name ++ (rest ++ '$' :: r)) = some (name, rest ++ '$' :: r) :=
        Text.name?_eq_some_iff.2 ⟨rfl, hname, hnext⟩
      rw [List.cons_append, List.append_assoc, ofChars_dollar_of_some hread', ih]
      rfl
  | case3 s hread ih =>
      have hread' : Text.name? (s ++ '$' :: r) = none := by
        refine Text.name?_eq_none ?_
        cases s with
        | nil =>
            rintro _ ⟨⟩
            decide
        | cons d s => exact fun c hc => Text.name?_eq_none_iff.1 hread c hc
      rw [List.cons_append, ofChars_dollar_of_none hread', ih]
      rfl
  | case4 c s hc ih =>
      rw [List.cons_append, ofChars_cons hc, ih]
      rfl

/-- The references of a text are its pieces. -/
theorem mem_ofChars_of_refersTo {s name : List Char} (h : RefersTo s name) :
    .reference name ∈ ofChars s := by
  obtain ⟨before, after, rfl, hname, hlongest⟩ := h
  have hread : Text.name? (name ++ after) = some (name, after) :=
    Text.name?_eq_some_iff.2 ⟨rfl, hname, hlongest⟩
  rw [ofChars_append_dollar, ofChars_dollar_of_some hread]
  exact List.mem_append_right _ List.mem_cons_self

end Piece

namespace MacroTable

variable {t : MacroTable} {s : List Char} {n : Nat}

/-! ### What a pass loses -/

theorem count_dollar_value (ht : t.Plain) {p : Piece} (hp : p.WellFormed) :
    (t.value p).count '$' + (if t.resolves p then 1 else 0) = p.source.count '$' := by
  cases hresolves : t.resolves p with
  | false => rw [value_of_not_resolves hresolves, if_neg Bool.false_ne_true, Nat.add_zero]
  | true =>
      rw [List.count_eq_zero.2 (dollar_not_mem_value ht hresolves), if_pos rfl, Nat.zero_add]
      cases p with
      | char c => cases hresolves
      | reference name =>
          have hname : name.count '$' = 0 := List.count_eq_zero.2 (Text.dollar_not_mem_of_isName hp)
          rw [Piece.source, List.count_cons_self, hname]

/-- A pass loses one `$` for each reference that it resolves. -/
theorem count_dollar_pass (ht : t.Plain) (s : List Char) :
    (t.pass s).count '$' + (Piece.ofChars s).countP t.resolves = s.count '$' := by
  have hwell : ∀ p ∈ Piece.ofChars s, p.WellFormed := fun _ => Piece.wellFormed_of_mem_ofChars
  conv_rhs => rw [← Piece.flatMap_source_ofChars s]
  rw [pass]
  generalize Piece.ofChars s = ps at hwell
  induction ps with
  | nil => rfl
  | cons p ps ih =>
      obtain ⟨hp, hps⟩ := List.forall_mem_cons.1 hwell
      have hhead := count_dollar_value ht hp
      have hrest := ih hps
      rw [List.flatMap_cons, List.flatMap_cons, List.count_append, List.count_append,
        List.countP_cons]
      omega

/-- There are enough passes for a line that has no more `$`. -/
theorem not_resolves_iterate (ht : t.Plain) (h : s.count '$' ≤ n) :
    ∀ p ∈ Piece.ofChars (t.pass^[n] s), t.resolves p = false := by
  induction n generalizing s with
  | zero =>
      have hlost := count_dollar_pass ht s
      have hnone : (Piece.ofChars s).countP t.resolves = 0 := by omega
      simpa using List.countP_eq_zero.1 hnone
  | succ n ih =>
      by_cases hnone : (Piece.ofChars s).countP t.resolves = 0
      · -- Nothing is left to be resolved, and further passes change nothing.
        have hresolves : ∀ p ∈ Piece.ofChars s, t.resolves p = false := by
          simpa using List.countP_eq_zero.1 hnone
        rw [Function.iterate_fixed (pass_of_not_resolves hresolves)]
        exact hresolves
      · have hlost := count_dollar_pass ht s
        rw [Function.iterate_succ_apply]
        exact ih (by omega)

/-- A line with at most 16 `$` is expanded to the end: it refers to no macro that has a text, and
expanding it again changes nothing. -/
theorem expand_complete (ht : t.Plain) {line : String} (hline : line.toList.count '$' ≤ 16) :
    (∀ name, RefersTo (t.expand line).toList name → t.get? (String.ofList name) = none) ∧
      t.expand (t.expand line) = t.expand line := by
  have hresolves := not_resolves_iterate ht hline
  rw [← show maxPasses = 16 from rfl, ← toList_expand_eq_iterate] at hresolves
  constructor
  · intro name hname
    simpa [resolves] using hresolves _ (Piece.mem_ofChars_of_refersTo hname)
  · rw [← String.toList_inj, toList_expand_eq_iterate,
      Function.iterate_fixed (pass_of_not_resolves hresolves)]

/-- A macro whose text makes the name of another one of the name before it. -/
def chainTable : MacroTable := ⟨[("C", .constant "x"), ("Vx", .variable (some "x"))]⟩

/-- Each pass makes the reference that the next one resolves. -/
theorem expand_complete_chain :
    chainTable.Plain ∧ "$V$V$C".toList.count '$' ≤ 16 ∧ chainTable.expand "$V$V$C" = "x" ∧
      chainTable.expand "x" = "x" := by
  have hplain : chainTable.Plain := by
    intro name text htext
    by_cases hC : name = "C"
    · subst hC
      obtain rfl : "x" = text := Option.some.inj htext
      decide
    · by_cases hV : name = "Vx"
      · subst hV
        obtain rfl : "x" = text := Option.some.inj htext
        decide
      · simp [get?, NameMap.find?, NameMap.findIn, chainTable, hC, hV] at htext
  have hfew : "$V$V$C".toList.count '$' ≤ 16 := by decide
  have hx : chainTable.expand "$V$V$C" = "x" := by decide +kernel
  have hagain := (expand_complete hplain hfew).2
  rw [hx] at hagain
  exact ⟨hplain, hfew, hx, hagain⟩

/-- Seventeen references are one too many. -/
example : chainTable.expand "$V$V$V$V$V$V$V$V$V$V$V$V$V$V$V$V$C" = "$Vx" := by decide +kernel

end MacroTable

end RigScript
