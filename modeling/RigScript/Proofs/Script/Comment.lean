import RigScript.Proofs.Script.Reading

/-! ## The part of a line before its comment

A comment begins at the first `#` with no backslash in front of it. Every other `#` belongs to the
text, which holds it without the backslash. -/

namespace RigScript.Script

open Text

/-- A line and the text before its comment. The text consists of pieces without `#`, which are
joined by `\#` in the line and by `#` in the text. Then the line ends, or a `#` comes that has no
backslash in front of it. -/
inductive Uncommented : List Char → List Char → Prop where
  | whole (pieces : List (List Char)) (hne : pieces ≠ []) (hpieces : ∀ p ∈ pieces, '#' ∉ p) :
    Uncommented (['\\', '#'].intercalate pieces) (['#'].intercalate pieces)
  | cut (pieces : List (List Char)) (comment : List Char) (hne : pieces ≠ [])
      (hpieces : ∀ p ∈ pieces, '#' ∉ p)
      (hbackslash : (['\\', '#'].intercalate pieces).getLast? ≠ some '\\') :
    Uncommented (['\\', '#'].intercalate pieces ++ '#' :: comment) (['#'].intercalate pieces)

variable {s r t p : List Char} {c : Char}

/-! ### Reading a piece -/

theorem beforeComment_cons (hc : c ≠ '#') (hr : c = '\\' → r.head? ≠ some '#') :
    beforeComment (c :: r) = c :: beforeComment r := by
  rw [beforeComment]
  · exact hc
  · rintro r' hbackslash rfl
    exact hr hbackslash rfl

/-- What holds no `#` is read as it is, up to a backslash that would hide the `#` behind it. -/
theorem beforeComment_append (hp : '#' ∉ p) (hr : p.getLast? = some '\\' → r.head? ≠ some '#') :
    beforeComment (p ++ r) = p ++ beforeComment r := by
  induction p with
  | nil => rfl
  | cons c p ih =>
      obtain ⟨hc, hp⟩ := not_or.1 (List.mem_cons.not.1 hp)
      cases p with
      | nil =>
          refine beforeComment_cons (Ne.symm hc) fun hbackslash => hr ?_
          rw [hbackslash]
          rfl
      | cons d p =>
          have hd : d ≠ '#' := fun heq => hp (heq ▸ List.mem_cons_self)
          have hnext := ih hp (by simpa using hr)
          rw [List.cons_append, beforeComment_cons (Ne.symm hc) (by simpa using fun _ => hd), hnext]
          rfl

/-! ### Pieces -/

theorem intercalate_cons_head (sep : List Char) (ps : List (List Char)) :
    sep.intercalate ((c :: p) :: ps) = c :: sep.intercalate (p :: ps) := by
  cases ps with
  | nil => simp
  | cons q ps => simp

theorem beforeComment_intercalate {pieces : List (List Char)} (hpieces : ∀ p ∈ pieces, '#' ∉ p)
    (hr : (['\\', '#'].intercalate pieces).getLast? = some '\\' → r.head? ≠ some '#')
    (hrest : beforeComment r = []) :
    beforeComment (['\\', '#'].intercalate pieces ++ r) = ['#'].intercalate pieces := by
  induction pieces with
  | nil => simpa using hrest
  | cons p pieces ih =>
      obtain ⟨hp, hpieces⟩ := List.forall_mem_cons.1 hpieces
      cases pieces with
      | nil =>
          rw [List.intercalate_singleton] at hr ⊢
          rw [beforeComment_append hp hr, hrest, List.append_nil, List.intercalate_singleton]
      | cons q pieces =>
          rw [List.intercalate_cons_cons] at hr
          have hnext := ih hpieces fun hlast => hr (by rw [List.getLast?_append, hlast]; rfl)
          rw [List.intercalate_cons_cons, List.intercalate_cons_cons, List.append_assoc,
            List.append_assoc, beforeComment_append hp (by simp), List.append_assoc, ← hnext]
          rfl

/-- An escaped `#` in front of the line begins a new piece. -/
theorem Uncommented.escaped (h : Uncommented r t) : Uncommented ('\\' :: '#' :: r) ('#' :: t) := by
  cases h with
  | whole pieces hne hpieces =>
      obtain ⟨p, pieces, rfl⟩ := List.exists_cons_of_ne_nil hne
      have h := Uncommented.whole ([] :: p :: pieces) (List.cons_ne_nil _ _)
        (List.forall_mem_cons.2 ⟨List.not_mem_nil, hpieces⟩)
      simpa [List.intercalate_cons_cons] using h
  | cut pieces comment hne hpieces hbackslash =>
      obtain ⟨p, pieces, rfl⟩ := List.exists_cons_of_ne_nil hne
      have h := Uncommented.cut ([] :: p :: pieces) comment (List.cons_ne_nil _ _)
        (List.forall_mem_cons.2 ⟨List.not_mem_nil, hpieces⟩) ?_
      · simpa [List.intercalate_cons_cons] using h
      · rw [List.intercalate_cons_cons, List.getLast?_append]
        cases hlast : (['\\', '#'].intercalate (p :: pieces)).getLast? with
        | none => simp
        | some d => simpa [hlast] using hbackslash

/-- A character in front of the line belongs to the first piece. -/
theorem Uncommented.plain (hc : c ≠ '#') (hr : c = '\\' → r.head? ≠ some '#')
    (h : Uncommented r t) : Uncommented (c :: r) (c :: t) := by
  have hplain : ∀ {p : List Char} {pieces : List (List Char)}, (∀ q ∈ p :: pieces, '#' ∉ q) →
      ∀ q ∈ (c :: p) :: pieces, '#' ∉ q := by
    intro p pieces hpieces
    obtain ⟨hp, hpieces⟩ := List.forall_mem_cons.1 hpieces
    exact List.forall_mem_cons.2
      ⟨fun hmem => (List.mem_cons.1 hmem).elim (Ne.symm hc) hp, hpieces⟩
  cases h with
  | whole pieces hne hpieces =>
      obtain ⟨p, pieces, rfl⟩ := List.exists_cons_of_ne_nil hne
      have h := Uncommented.whole _ (List.cons_ne_nil _ _) (hplain hpieces)
      rwa [intercalate_cons_head, intercalate_cons_head] at h
  | cut pieces comment hne hpieces hbackslash =>
      obtain ⟨p, pieces, rfl⟩ := List.exists_cons_of_ne_nil hne
      have h := Uncommented.cut _ comment (List.cons_ne_nil _ _) (hplain hpieces) ?_
      · rwa [intercalate_cons_head, intercalate_cons_head] at h
      · rw [intercalate_cons_head]
        cases hjoined : ['\\', '#'].intercalate (p :: pieces) with
        | nil =>
            -- The comment comes right behind the character, which does not hide it.
            rw [hjoined] at hr
            simpa using mt hr (by simp)
        | cons d joined => simpa [hjoined] using hbackslash

theorem uncommented_beforeComment (s : List Char) : Uncommented s (beforeComment s) := by
  fun_induction beforeComment s with
  | case1 => exact .whole [[]] (List.cons_ne_nil _ _) (by simp)
  | case2 r => exact .cut [[]] r (List.cons_ne_nil _ _) (by simp) (by simp)
  | case3 r ih => exact ih.escaped
  | case4 c r hc hr ih =>
      refine ih.plain hc fun hbackslash hhead => ?_
      obtain ⟨r', rfl⟩ := List.head?_eq_some_iff.1 hhead
      exact hr r' hbackslash rfl

/-- The text before the comment is the only one that the line can be taken for. -/
theorem beforeComment_eq_iff : beforeComment s = t ↔ Uncommented s t := by
  refine ⟨fun h => h ▸ uncommented_beforeComment s, fun h => ?_⟩
  cases h with
  | whole _ _ hpieces =>
      have h := beforeComment_intercalate (r := []) hpieces (by simp) rfl
      rwa [List.append_nil] at h
  | cut _ _ _ hpieces hbackslash =>
      exact beforeComment_intercalate hpieces (fun h => absurd h hbackslash) rfl

end RigScript.Script
