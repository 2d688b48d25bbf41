/-! ## Blank characters

Words of a script are separated by blanks: the characters of the Unicode property `White_Space`.
Trimming cuts blanks at the ends of a text. Texts are lists of characters here; the rest of the
library converts at its edges. -/

namespace RigScript.Text

/-- The 25 characters of the Unicode property `White_Space`. -/
def isBlank (c : Char) : Bool :=
  let n := c.toNat
  (0x09 ≤ n && n ≤ 0x0D) || n == 0x20 || n == 0x85 || n == 0xA0 || n == 0x1680 ||
    (0x2000 ≤ n && n ≤ 0x200A) || n == 0x2028 || n == 0x2029 || n == 0x202F || n == 0x205F ||
    n == 0x3000

/-- What core calls whitespace is blank. -/
theorem isBlank_of_isWhitespace {c : Char} (h : c.isWhitespace) : isBlank c := by
  simp only [Char.isWhitespace, Bool.or_eq_true, decide_eq_true_eq] at h
  rcases h with ((rfl | rfl) | rfl) | rfl <;> decide

/-! ## Trimming -/

def trimStart (s : List Char) : List Char := s.dropWhile isBlank

def trimEnd : List Char → List Char
  | [] => []
  | c :: r =>
    match trimEnd r with
    | [] => if isBlank c then [] else [c]
    | d :: t => c :: d :: t

def trim (s : List Char) : List Char := trimEnd (trimStart s)

/-- Text on which trimming has nothing to do. -/
def Trimmed (s : List Char) : Prop :=
  (∀ c ∈ s.head?, isBlank c = false) ∧ (∀ c ∈ s.getLast?, isBlank c = false)

@[simp] theorem trimStart_nil : trimStart [] = [] := rfl

theorem trimStart_cons (c : Char) (r : List Char) :
    trimStart (c :: r) = if isBlank c then trimStart r else c :: r := by
  by_cases h : isBlank c <;> simp [trimStart, h]

@[simp] theorem trimEnd_nil : trimEnd [] = [] := rfl

theorem trimEnd_cons (c : Char) (r : List Char) :
    trimEnd (c :: r) = if trimEnd r = [] ∧ isBlank c then [] else c :: trimEnd r := by
  simp only [trimEnd]
  cases h : trimEnd r with
  | nil => by_cases hc : isBlank c <;> simp [hc]
  | cons d t => simp

theorem head?_trimStart {s : List Char} {c : Char} (h : c ∈ (trimStart s).head?) :
    isBlank c = false := by
  induction s with
  | nil => simp at h
  | cons d r ih =>
    rw [trimStart_cons] at h
    by_cases hd : isBlank d
    · exact ih (by simpa [hd] using h)
    · simp only [hd, Bool.false_eq_true, if_false, List.head?_cons, Option.mem_def,
        Option.some.injEq] at h
      subst h; simpa using hd

/-- Everything that `trimEnd` cuts is blank. -/
theorem trimEnd_append_blanks (s : List Char) :
    ∃ b, s = trimEnd s ++ b ∧ b.all isBlank := by
  induction s with
  | nil => exact ⟨[], rfl, rfl⟩
  | cons c r ih =>
    obtain ⟨b, hb, hall⟩ := ih
    rw [trimEnd_cons]
    by_cases hc : trimEnd r = [] ∧ isBlank c
    · refine ⟨c :: r, by simp [hc], ?_⟩
      rw [hc.1, List.nil_append] at hb
      simp [hc.2, hb, hall]
    · exact ⟨b, by simp only [hc, if_false, List.cons_append]; rw [← hb], hall⟩

theorem getLast?_trimEnd {s : List Char} {c : Char} (h : c ∈ (trimEnd s).getLast?) :
    isBlank c = false := by
  induction s with
  | nil => simp at h
  | cons d r ih =>
    rw [trimEnd_cons] at h
    by_cases hd : trimEnd r = [] ∧ isBlank d
    · simp [hd] at h
    · rw [if_neg hd] at h
      cases hr : trimEnd r with
      | nil =>
        rw [hr] at h hd
        simp only [List.getLast?_singleton, Option.mem_def, Option.some.injEq] at h
        subst h; simpa using hd
      | cons e t =>
        refine ih ?_
        rw [hr] at h ⊢
        simpa using h

theorem trimEnd_of_not_blank {s : List Char} (h : ∀ c ∈ s.getLast?, isBlank c = false) :
    trimEnd s = s := by
  induction s with
  | nil => rfl
  | cons c r ih =>
    rw [trimEnd_cons]
    cases r with
    | nil => simpa using h
    | cons d t =>
      have hr : trimEnd (d :: t) = d :: t := ih (by simpa using h)
      simp [hr]

theorem trimStart_of_not_blank {s : List Char} (h : ∀ c ∈ s.head?, isBlank c = false) :
    trimStart s = s := by
  cases s with
  | nil => rfl
  | cons c r => rw [trimStart_cons, h c (by simp)]; simp

theorem trim_of_trimmed {s : List Char} (h : Trimmed s) : trim s = s := by
  rw [trim, trimStart_of_not_blank h.1, trimEnd_of_not_blank h.2]

end RigScript.Text
