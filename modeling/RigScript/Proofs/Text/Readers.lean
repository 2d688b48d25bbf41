import Mathlib.Data.List.Basic
import RigScript.Text.Name

/-! ## What readers take

A reader takes something from the front of a text, as much of it as there is, and hands back the
rest. For each reader this file says which texts it takes, and what it makes of them. -/

namespace RigScript.Text

variable {s n r : List Char} {c : Char}

/-! ### Characters -/

theorem isNameChar_of_isNameStart (h : isNameStart c) : isNameChar c := by
  simp [isNameChar, h]

/-- A blank is no part of a name. -/
theorem not_isNameChar_of_isBlank (h : isBlank c) : isNameChar c = false := by
  rw [Bool.eq_false_iff]
  intro hname
  simp only [isBlank, isNameChar, isNameStart, Bool.or_eq_true, Bool.and_eq_true, beq_iff_eq,
    decide_eq_true_eq, Char.le_def, UInt32.le_iff_toNat_le, Char.ext_iff, ← UInt32.toNat_inj,
    Char.reduceVal, UInt32.reduceToNat] at h hname
  simp only [Char.toNat] at h
  omega

theorem not_isBlank_of_isNameChar (h : isNameChar c) : isBlank c = false := by
  rw [Bool.eq_false_iff]
  intro hblank
  rw [not_isNameChar_of_isBlank hblank] at h
  cases h

theorem isNameChar_of_isUpperChar (h : isUpperChar c) : isNameChar c := by
  simp only [isUpperChar, isUpperStart, Bool.or_eq_true] at h
  simp only [isNameChar, isNameStart, Bool.or_eq_true]
  tauto

theorem isNameStart_of_isUpperStart (h : isUpperStart c) : isNameStart c := by
  rw [isUpperStart] at h
  rw [isNameStart, h, Bool.true_or, Bool.true_or]

/-! ### The longest run -/

theorem takeWhile_eq_nil_of_head {p : Char → Bool} (h : ∀ c ∈ s.head?, p c = false) :
    s.takeWhile p = [] ∧ s.dropWhile p = s := by
  cases s with
  | nil => exact ⟨rfl, rfl⟩
  | cons c r =>
      have hc : p c = false := h c rfl
      simp [hc]

/-- A run of characters is taken as a whole if something else comes next. -/
theorem takeWhile_append_of_run {p : Char → Bool} (hn : ∀ c ∈ n, p c)
    (hr : ∀ c ∈ r.head?, p c = false) :
    (n ++ r).takeWhile p = n ∧ (n ++ r).dropWhile p = r := by
  obtain ⟨htake, hdrop⟩ := takeWhile_eq_nil_of_head hr
  rw [List.takeWhile_append_of_pos hn, List.dropWhile_append_of_pos hn, htake, hdrop,
    List.append_nil]
  exact ⟨rfl, rfl⟩

theorem head?_dropWhile {p : Char → Bool} (s : List Char) :
    ∀ c ∈ (s.dropWhile p).head?, p c = false := by
  intro c hc
  have hhead := List.head?_dropWhile_not p s
  rw [Option.mem_def.1 hc] at hhead
  simpa using hhead

/-! ### Blanks -/

/-- A gap between words. -/
def IsGap (s : List Char) : Prop := s ≠ [] ∧ ∀ c ∈ s, isBlank c

theorem IsGap.reverse (h : IsGap s) : IsGap s.reverse :=
  ⟨by simpa using h.1, fun c hc => h.2 c (List.mem_reverse.1 hc)⟩

theorem IsGap.head? (h : IsGap s) (r : List Char) : ∀ c ∈ (s ++ r).head?, isBlank c := by
  obtain ⟨hne, hall⟩ := h
  cases s with
  | nil => exact absurd rfl hne
  | cons d s =>
      rintro _ ⟨⟩
      exact hall d List.mem_cons_self

theorem mem_of_mem_trimStart (h : c ∈ trimStart s) : c ∈ s := (List.dropWhile_sublist _).subset h

theorem mem_of_mem_trimEnd (h : c ∈ trimEnd s) : c ∈ s := by
  obtain ⟨b, hb, -⟩ := trimEnd_append_blanks s
  rw [hb]
  exact List.mem_append_left b h

theorem mem_of_mem_trim (h : c ∈ trim s) : c ∈ s := mem_of_mem_trimStart (mem_of_mem_trimEnd h)

theorem trimStart_append (hn : ∀ c ∈ n, isBlank c) (hr : ∀ c ∈ r.head?, isBlank c = false) :
    trimStart (n ++ r) = r := (takeWhile_append_of_run hn hr).2

/-- What is cut at the front is blank. -/
theorem exists_blanks_trimStart (s : List Char) :
    ∃ space, (∀ c ∈ space, isBlank c) ∧ s = space ++ trimStart s :=
  ⟨s.takeWhile isBlank, List.all_eq_true.1 List.all_takeWhile,
    List.takeWhile_append_dropWhile.symm⟩

theorem trimEnd_append_blank (hc : isBlank c) (s : List Char) :
    trimEnd (s ++ [c]) = trimEnd s := by
  induction s with
  | nil => simp [trimEnd, hc]
  | cons d s ih => rw [List.cons_append, trimEnd_cons, trimEnd_cons, ih]

theorem trimEnd_append_of_blank {b : List Char} (hb : ∀ c ∈ b, isBlank c) (s : List Char) :
    trimEnd (s ++ b) = trimEnd s := by
  induction b generalizing s with
  | nil => rw [List.append_nil]
  | cons c b ih =>
      obtain ⟨hc, hb⟩ := List.forall_mem_cons.1 hb
      rw [List.append_cons, ih hb, trimEnd_append_blank hc]

/-- Nothing is cut in front of a character that is no blank. -/
theorem trimEnd_append_cons (hc : isBlank c = false) (s r : List Char) :
    trimEnd (s ++ c :: r) = s ++ c :: trimEnd r := by
  induction s with
  | nil => simp [trimEnd_cons, hc]
  | cons d s ih => rw [List.cons_append, trimEnd_cons, ih, if_neg (by simp), List.cons_append]

/-- Blanks at the end make no difference. -/
theorem trim_append_of_blank {b : List Char} (hb : ∀ c ∈ b, isBlank c) (s : List Char) :
    trim (s ++ b) = trim s := by
  have hblank : trimStart b = [] := by
    have h := trimStart_append (r := []) hb (by simp)
    rwa [List.append_nil] at h
  rw [trim, trim, trimStart, List.dropWhile_append]
  split
  · rename_i hnil
    change trimEnd (trimStart b) = _
    rw [hblank, trimStart, List.isEmpty_iff.1 hnil]
  · exact trimEnd_append_of_blank hb _

/-- Blanks are cut at both ends of a text that holds none. -/
theorem trim_append {b : List Char} (hn : ∀ c ∈ n, isBlank c) (hb : ∀ c ∈ b, isBlank c)
    (hs : ∀ c ∈ s, isBlank c = false) : trim (n ++ (s ++ b)) = s := by
  have hhead : ∀ c ∈ s.head?, isBlank c = false := fun c hc => hs c (List.mem_of_mem_head? hc)
  have hlast : ∀ c ∈ s.getLast?, isBlank c = false := fun c hc => hs c (List.mem_of_mem_getLast? hc)
  rw [← List.append_assoc, trim_append_of_blank hb, trim, trimStart_append hn hhead,
    trimEnd_of_not_blank hlast]

/-- What is cut at the ends is blank. -/
theorem exists_blanks_trim (s : List Char) :
    ∃ n b, (∀ c ∈ n, isBlank c) ∧ (∀ c ∈ b, isBlank c) ∧ s = n ++ (trim s ++ b) := by
  obtain ⟨n, hn, hs⟩ := exists_blanks_trimStart s
  obtain ⟨b, htrim, hb⟩ := trimEnd_append_blanks (trimStart s)
  exact ⟨n, b, hn, List.all_eq_true.1 hb, by rw [trim, ← htrim, ← hs]⟩

theorem mem_trim (h : c ∈ s) (hc : isBlank c = false) : c ∈ trim s := by
  obtain ⟨space, hspace, hs⟩ := exists_blanks_trimStart s
  obtain ⟨b, hb, hblank⟩ := trimEnd_append_blanks (trimStart s)
  have hnot : ∀ {l : List Char}, (∀ d ∈ l, isBlank d) → c ∉ l := by
    intro l hl hmem
    rw [hl c hmem] at hc
    cases hc
  rw [hs, hb] at h
  have hrest := (List.mem_append.1 h).resolve_left (hnot hspace)
  exact (List.mem_append.1 hrest).resolve_right (hnot (List.all_eq_true.1 hblank))

/-- The end is cut as far as there is something else left. -/
theorem trim_ne_nil (h : trimStart s ≠ []) : trim s ≠ [] := by
  intro hnil
  obtain ⟨b, hb, hblank⟩ := trimEnd_append_blanks (trimStart s)
  rw [← trim, hnil, List.nil_append] at hb
  cases b with
  | nil => exact h hb
  | cons c b =>
      have hc := head?_trimStart (s := s) (c := c) (by rw [hb]; rfl)
      rw [List.all_cons, hc] at hblank
      cases hblank

theorem trimmed_trimEnd (h : ∀ c ∈ s.head?, isBlank c = false) : Trimmed (trimEnd s) := by
  refine ⟨fun c hc => h c ?_, fun c hc => getLast?_trimEnd hc⟩
  obtain ⟨b, hb, -⟩ := trimEnd_append_blanks s
  rw [hb]
  exact List.mem_head?_append_of_mem_head? hc

theorem trimmed_trim (s : List Char) : Trimmed (trim s) := trimmed_trimEnd fun _ => head?_trimStart

theorem trim_eq_self_iff : trim s = s ↔ Trimmed s := by
  refine ⟨fun h => ?_, trim_of_trimmed⟩
  rw [← h]
  exact trimmed_trim s

/-- A gap is cut, and what comes after it is left. -/
theorem blanks?_append (hn : IsGap n) (hr : ∀ c ∈ r.head?, isBlank c = false) :
    blanks? (n ++ r) = some r := by
  obtain ⟨hne, hall⟩ := hn
  cases n with
  | nil => exact absurd rfl hne
  | cons c n =>
      obtain ⟨hc, hall⟩ := List.forall_mem_cons.1 hall
      rw [List.cons_append, blanks?, if_pos hc, trimStart_append hall hr]

theorem blanks?_eq_some_iff :
    blanks? s = some r ↔
      ∃ gap, IsGap gap ∧ s = gap ++ r ∧ ∀ c ∈ r.head?, isBlank c = false := by
  constructor
  · intro h
    cases s with
    | nil => cases h
    | cons c s =>
        simp only [blanks?, Option.ite_none_right_eq_some, Option.some.injEq] at h
        obtain ⟨hc, rfl⟩ := h
        obtain ⟨space, hspace, hs⟩ := exists_blanks_trimStart s
        refine ⟨c :: space, ⟨List.cons_ne_nil _ _, ?_⟩, ?_, fun _ => head?_trimStart⟩
        · exact List.forall_mem_cons.2 ⟨hc, hspace⟩
        · rw [List.cons_append, ← hs]
  · rintro ⟨gap, hgap, rfl, hr⟩
    exact blanks?_append hgap hr

/-! ### Names -/

theorem all_isNameChar_of_isName (h : isName n) : ∀ c ∈ n, isNameChar c := by
  cases n with
  | nil => cases h
  | cons d r =>
      simp only [isName, Bool.and_eq_true, List.all_eq_true] at h
      intro c hc
      rcases List.mem_cons.1 hc with rfl | hmem
      · exact isNameChar_of_isNameStart h.1
      · exact h.2 c hmem

theorem exists_cons_of_isName (h : isName n) : ∃ c r, n = c :: r ∧ isNameStart c := by
  cases n with
  | nil => cases h
  | cons c r =>
      simp only [isName, Bool.and_eq_true] at h
      exact ⟨c, r, rfl, h.1⟩

theorem isName_of_isUpperName (h : isUpperName n) : isName n := by
  cases n with
  | nil => cases h
  | cons c r =>
      simp only [isUpperName, isName, Bool.and_eq_true, List.all_eq_true] at h ⊢
      exact ⟨isNameStart_of_isUpperStart h.1, fun d hd => isNameChar_of_isUpperChar (h.2 d hd)⟩

/-- What begins with a name begins with no blank. -/
theorem not_isBlank_head?_of_isName (h : isName n) (r : List Char) :
    ∀ c ∈ (n ++ r).head?, isBlank c = false := by
  obtain ⟨c, m, rfl, hc⟩ := exists_cons_of_isName h
  rintro d ⟨⟩
  exact not_isBlank_of_isNameChar (isNameChar_of_isNameStart hc)

/-- A name in front of a text is read together with the name characters behind it. -/
theorem name?_append (hn : isName n) (s : List Char) :
    name? (n ++ s) = some (n ++ s.takeWhile isNameChar, s.dropWhile isNameChar) := by
  cases n with
  | nil => cases hn
  | cons c r =>
      simp only [isName, Bool.and_eq_true, List.all_eq_true] at hn
      have htake : (r ++ s).takeWhile isNameChar = r ++ s.takeWhile isNameChar :=
        List.takeWhile_append_of_pos hn.2
      have hdrop : (r ++ s).dropWhile isNameChar = s.dropWhile isNameChar :=
        List.dropWhile_append_of_pos hn.2
      simp [name?, hn.1, htake, hdrop]

/-- A name is read as far as it goes. -/
theorem not_isNameChar_of_name? (h : name? s = some (n, r)) :
    ∀ c ∈ r.head?, isNameChar c = false := by
  cases s with
  | nil => cases h
  | cons d s =>
      simp only [name?, Option.ite_none_right_eq_some, Option.some.injEq, Prod.mk.injEq] at h
      obtain ⟨-, -, rfl⟩ := h
      exact head?_dropWhile s

theorem name?_eq_none (h : ∀ c ∈ s.head?, isNameStart c = false) : name? s = none := by
  cases s with
  | nil => rfl
  | cons c r => simp [name?, h c rfl]

theorem name?_eq_none_iff : name? s = none ↔ ∀ c ∈ s.head?, isNameStart c = false := by
  refine ⟨fun h => ?_, name?_eq_none⟩
  cases s with
  | nil => simp
  | cons c r =>
      rintro _ ⟨⟩
      simpa [name?] using h

theorem name?_eq_some_iff :
    name? s = some (n, r) ↔ s = n ++ r ∧ isName n ∧ ∀ c ∈ r.head?, isNameChar c = false := by
  constructor
  · intro h
    exact ⟨append_of_name? h, isName_of_name? h, not_isNameChar_of_name? h⟩
  · rintro ⟨rfl, hn, hr⟩
    obtain ⟨htake, hdrop⟩ := takeWhile_eq_nil_of_head hr
    rw [name?_append hn, htake, hdrop, List.append_nil]

theorem upperName?_eq_some_iff :
    upperName? s = some (n, r) ↔
      s = n ++ r ∧ isUpperName n ∧ ∀ c ∈ r.head?, isUpperChar c = false := by
  constructor
  · intro h
    refine ⟨append_of_upperName? h, ?_⟩
    cases s with
    | nil => cases h
    | cons c s =>
        simp only [upperName?, Option.ite_none_right_eq_some, Option.some.injEq,
          Prod.mk.injEq] at h
        obtain ⟨hc, rfl, rfl⟩ := h
        refine ⟨?_, head?_dropWhile s⟩
        simp [isUpperName, hc, List.all_takeWhile]
  · rintro ⟨rfl, hn, hr⟩
    cases n with
    | nil => cases hn
    | cons c m =>
        simp only [isUpperName, Bool.and_eq_true, List.all_eq_true] at hn
        obtain ⟨htake, hdrop⟩ := takeWhile_append_of_run hn.2 hr
        rw [List.cons_append, upperName?, if_pos hn.1, htake, hdrop]

end RigScript.Text
