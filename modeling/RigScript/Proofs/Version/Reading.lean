import Mathlib.Data.Nat.Digits.Defs
import RigScript.Proofs.Statement.Rendering

/-! ## Versions as texts

A version is written as four decimal numbers with points between them. A mark may stand in front of
it and blanks around it. This file gives the grammar of these texts and shows that a reader takes
them, with the numbers that they stand for, and no others. What is shown of a version is among
them. -/

namespace RigScript

open Text

namespace Version

/-! ### The grammar -/

/-- A component as it is written: at least one digit, and perhaps a plus sign in front. The digits
weigh powers of ten, the last of them one, and the number has 32 bits. -/
inductive IsNumber : List Char → UInt32 → Prop where
  | number {sign digits : List Char} {n : UInt32} (hsign : sign = [] ∨ sign = ['+'])
      (hne : digits ≠ []) (hdigits : ∀ c ∈ digits, isDigit c)
      (hvalue : Nat.ofDigits 10 (digits.reverse.map digitValue) = n.toNat) :
      IsNumber (sign ++ digits) n

/-- The components with points between them. -/
inductive IsDotted : List Char → Version → Prop where
  | dotted {a b c d : List Char} {v : Version} (ha : IsNumber a v.major) (hb : IsNumber b v.minor)
      (hc : IsNumber c v.patch) (hd : IsNumber d v.build) :
      IsDotted (a ++ '.' :: (b ++ '.' :: (c ++ '.' :: d))) v

/-- What may stand in front of the components. -/
def marks : List (List Char) := [[], ['v'], ['V']]

/-- The texts that stand for a version. -/
inductive Written : List Char → Version → Prop where
  | written {before mark s after : List Char} {v : Version} (hbefore : ∀ c ∈ before, isBlank c)
      (hmark : mark ∈ marks) (hs : IsDotted s v) (hafter : ∀ c ∈ after, isBlank c) :
      Written (before ++ (mark ++ s ++ after)) v

/-! ### Numbers -/

theorem isNumber_of_isComponent {s : List Char} {n : UInt32} (h : Statement.IsComponent s n) :
    IsNumber s n :=
  .number (.inl rfl) h.nonempty h.digits (numeral_eq_ofDigits s ▸ h.value)

theorem component?_eq_some_iff {s : List Char} {n : UInt32} :
    component? s = some n ↔ IsNumber s n := by
  constructor
  · intro h
    obtain ⟨m, hm, rfl⟩ := Option.map_eq_some_iff.1 h
    obtain ⟨sign, digits, rfl, hsign, hne, hdigits, hvalue, hlt⟩ := decimal?_eq_some_iff.1 hm
    refine .number hsign hne hdigits ?_
    rw [← numeral_eq_ofDigits, hvalue, UInt32.toNat_ofNat_of_lt' hlt]
  · rintro ⟨hsign, hne, hdigits, hvalue⟩
    rename_i sign digits
    rw [← numeral_eq_ofDigits] at hvalue
    have hread : decimal? UInt32.size (sign ++ digits) = some n.toNat :=
      decimal?_eq_some_iff.2 ⟨sign, digits, rfl, hsign, hne, hdigits, hvalue, n.toNat_lt_size⟩
    rw [component?, hread, Option.map_some, UInt32.ofNat_toNat]

theorem IsNumber.mem {s : List Char} {n : UInt32} (h : IsNumber s n) :
    ∀ c ∈ s, c = '+' ∨ isDigit c := by
  obtain ⟨hsign, -, hdigits, -⟩ := h
  intro c hc
  rcases List.mem_append.1 hc with hmem | hmem
  · rcases hsign with rfl | rfl
    · cases hmem
    · exact .inl (List.mem_singleton.1 hmem)
  · exact .inr (hdigits c hmem)

theorem IsNumber.dot_not_mem {s : List Char} {n : UInt32} (h : IsNumber s n) : '.' ∉ s := by
  intro hmem
  rcases h.mem '.' hmem with hplus | hdigit
  · cases hplus
  · cases hdigit

/-! ### Components -/

variable {s : List Char} {v : Version}

theorem ofPieces?_eq_some_iff : ofPieces? (pieces s) = some v ↔ IsDotted s v := by
  constructor
  · intro h
    unfold ofPieces? at h
    split at h
    · rename_i a b c d hpieces
      obtain ⟨ha, hb, hc, hd⟩ := components_eq_some_iff.1 h
      rw [component?_eq_some_iff] at ha hb hc hd
      obtain ⟨rfl, -⟩ := pieces_eq_four_iff.1 hpieces
      exact .dotted ha hb hc hd
    · cases h
  · rintro ⟨ha, hb, hc, hd⟩
    rw [pieces_eq_four_iff.2 ⟨rfl, ha.dot_not_mem, hb.dot_not_mem, hc.dot_not_mem,
      hd.dot_not_mem⟩]
    rw [← component?_eq_some_iff] at ha hb hc hd
    exact components_eq_some_iff.2 ⟨ha, hb, hc, hd⟩

theorem IsDotted.mem (h : IsDotted s v) : ∀ c ∈ s, c = '.' ∨ c = '+' ∨ isDigit c := by
  obtain ⟨ha, hb, hc, hd⟩ := h
  intro x hx
  simp only [List.mem_append, List.mem_cons] at hx
  rcases hx with hx | hx | hx | hx | hx | hx | hx
  · exact .inr (ha.mem x hx)
  · exact .inl hx
  · exact .inr (hb.mem x hx)
  · exact .inl hx
  · exact .inr (hc.mem x hx)
  · exact .inl hx
  · exact .inr (hd.mem x hx)

theorem IsDotted.not_isBlank (h : IsDotted s v) : ∀ c ∈ s, isBlank c = false := by
  intro c hc
  rcases h.mem c hc with rfl | rfl | hdigit
  · rfl
  · rfl
  · exact not_isBlank_of_isDigit hdigit

theorem isDotted_render (v : Version) : IsDotted v.render.toList v := by
  have hnumber : ∀ n : UInt32, IsNumber (toString n).toList n := fun n =>
    isNumber_of_isComponent (Statement.isComponent_toString n)
  have hdotted : IsDotted _ v := .dotted (hnumber _) (hnumber _) (hnumber _) (hnumber _)
  simpa [render] using hdotted

/-! ### Around the components -/

theorem exists_mark (s : List Char) : ∃ mark ∈ marks, s = mark ++ dropMark s := by
  unfold dropMark
  split
  · exact ⟨['v'], by simp [marks], rfl⟩
  · exact ⟨['V'], by simp [marks], rfl⟩
  · exact ⟨[], by simp [marks], rfl⟩

theorem IsDotted.dropMark_eq (h : IsDotted s v) : dropMark s = s := by
  have hmark : ∀ c ∈ s.head?, c ≠ 'v' ∧ c ≠ 'V' := by
    intro c hc
    rcases h.mem c (List.mem_of_mem_head? hc) with rfl | rfl | hdigit
    · decide
    · decide
    · constructor <;> rintro rfl <;> cases hdigit
  unfold dropMark
  split
  · exact absurd rfl (hmark 'v' rfl).1
  · exact absurd rfl (hmark 'V' rfl).2
  · rfl

/-- A mark is dropped, and no second one. -/
theorem dropMark_append {mark : List Char} (hmark : mark ∈ marks) (hs : IsDotted s v) :
    dropMark (mark ++ s) = s := by
  simp only [marks, List.mem_cons, List.not_mem_nil, or_false] at hmark
  rcases hmark with rfl | rfl | rfl
  · exact hs.dropMark_eq
  · rfl
  · rfl

theorem not_isBlank_of_mem_mark {mark : List Char} (hmark : mark ∈ marks) :
    ∀ c ∈ mark, isBlank c = false := by
  have hall : marks.all (·.all (!isBlank ·)) = true := rfl
  simpa using List.all_eq_true.1 hall mark hmark

theorem parse?_eq_some_iff {s : String} : parse? s = some v ↔ Written s.toList v := by
  rw [parse?, ofPieces?_eq_some_iff]
  constructor
  · intro hs
    obtain ⟨before, after, hbefore, hafter, htrim⟩ := exists_blanks_trim s.toList
    obtain ⟨mark, hmark, hdrop⟩ := exists_mark (trim s.toList)
    rw [htrim, hdrop]
    exact .written hbefore hmark hs hafter
  · intro hwritten
    generalize s.toList = text at hwritten
    obtain ⟨hbefore, hmark, hs, hafter⟩ := hwritten
    rename_i before mark s after
    have hsolid : ∀ c ∈ mark ++ s, isBlank c = false := by
      intro c hc
      rcases List.mem_append.1 hc with hmem | hmem
      · exact not_isBlank_of_mem_mark hmark c hmem
      · exact hs.not_isBlank c hmem
    rw [trim_append hbefore hafter hsolid, dropMark_append hmark hs]
    exact hs

/-! ### Texts -/

theorem parse_eq_ok_iff {s : String} : parse s = .ok v ↔ Written s.toList v := by
  rw [← parse?_eq_some_iff, parse]
  cases parse? s <;> simp

/-- A text is read as the version that it is written as, and refused as it stands if it is written
as none. Whatever blanks and mark are put around what is shown of a version, it is read back. -/
theorem parse_written :
    (∀ (s : String) (v : Version), parse s = .ok v ↔ Written s.toList v) ∧
      (∀ (s : String) (e : VersionError),
        parse s = .error e ↔ e = .malformed s ∧ ∀ v, ¬ Written s.toList v) ∧
      ∀ (v : Version) (before mark after : List Char), (∀ c ∈ before, isBlank c) → mark ∈ marks →
        (∀ c ∈ after, isBlank c) →
        parse (String.ofList (before ++ (mark ++ v.render.toList ++ after))) = .ok v := by
  refine ⟨fun _ _ => parse_eq_ok_iff, fun s e => ?_, fun v before mark after hb hm ha => ?_⟩
  · simp only [← parse?_eq_some_iff, parse]
    cases parse? s <;> simp [eq_comm]
  · rw [parse_eq_ok_iff, String.toList_ofList]
    exact .written hb hm (isDotted_render v) ha

/-- The greatest number of 32 bits is read, behind a mark and among blanks of three kinds. -/
theorem parse_written_marked :
    parse "\u2003\tV4294967295.0.10.7\n" = .ok ⟨4294967295, 0, 10, 7⟩ := by
  have hbefore : ∀ c ∈ ['\u2003', '\t'], isBlank c := List.all_eq_true.1 rfl
  have hafter : ∀ c ∈ ['\n'], isBlank c := List.all_eq_true.1 rfl
  have hmark : ['V'] ∈ marks := by simp [marks]
  exact parse_written.2.2 ⟨4294967295, 0, 10, 7⟩ _ _ _ hbefore hmark hafter

example : parse "v+1.002.0.4294967295" = .ok ⟨1, 2, 0, 4294967295⟩ := by decide

example : parse " 1.2.3.4294967296" = .error (.malformed " 1.2.3.4294967296") := by decide

end Version

end RigScript
