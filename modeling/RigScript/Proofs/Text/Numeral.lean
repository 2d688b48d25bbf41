import Mathlib.Data.List.Induction
import Mathlib.Data.Nat.Digits.Defs
import RigScript.Proofs.Text.Readers
import RigScript.Text.Decimal

/-! ## What decimal numbers are read

A row of digits denotes a number by the places of the digits, the last of which counts ones. A
number is read from such a row, with or without a plus sign in front of it, if it is below the
bound. -/

namespace RigScript.Text

variable {bound n : Nat} {s sign digits : List Char}

theorem not_isBlank_of_isDigit {c : Char} (h : isDigit c) : isBlank c = false := by
  apply not_isBlank_of_isNameChar
  rw [isNameChar, Bool.or_eq_true]
  exact .inr h

theorem numeral_eq_ofDigits (s : List Char) :
    numeral s = Nat.ofDigits 10 (s.reverse.map digitValue) := by
  induction s using List.reverseRecOn with
  | nil => rfl
  | append_singleton s c ih =>
      rw [List.reverse_append, List.reverse_singleton, List.singleton_append, List.map_cons,
        Nat.ofDigits_cons, ← ih, numeral, List.foldl_append, ← numeral]
      exact Nat.add_comm _ _

theorem decimal?_of_digits (hdigits : ∀ c ∈ s, isDigit c) :
    decimal? bound s =
      if s ≠ [] ∧ numeral s < bound then some (numeral s) else none := by
  have hall : s.all isDigit = true := List.all_eq_true.2 hdigits
  unfold decimal?
  dsimp only
  split
  · exact absurd (hdigits '+' List.mem_cons_self) (by decide)
  · simp [hall]

/-- A plus sign makes no difference in front of digits. -/
theorem decimal?_sign (hsign : sign = [] ∨ sign = ['+']) (hdigits : ∀ c ∈ digits, isDigit c) :
    decimal? bound (sign ++ digits) = decimal? bound digits := by
  rcases hsign with rfl | rfl
  · rfl
  · rw [decimal?_of_digits hdigits]
    have hall : digits.all isDigit = true := List.all_eq_true.2 hdigits
    simp [decimal?, hall]

theorem exists_digits_of_decimal? (h : decimal? bound s = some n) :
    ∃ sign digits, s = sign ++ digits ∧ (sign = [] ∨ sign = ['+']) ∧ ∀ c ∈ digits, isDigit c := by
  unfold decimal? at h
  dsimp only at h
  obtain ⟨hread, -⟩ := Option.ite_none_right_eq_some.1 h
  rw [Bool.and_eq_true, Bool.and_eq_true, List.all_eq_true] at hread
  obtain ⟨⟨-, hdigits⟩, -⟩ := hread
  split at hdigits
  · exact ⟨['+'], _, rfl, .inr rfl, hdigits⟩
  · exact ⟨[], s, rfl, .inl rfl, hdigits⟩

theorem decimal?_eq_some_iff :
    decimal? bound s = some n ↔ ∃ sign digits, s = sign ++ digits ∧ (sign = [] ∨ sign = ['+']) ∧
      digits ≠ [] ∧ (∀ c ∈ digits, isDigit c) ∧ numeral digits = n ∧ n < bound := by
  constructor
  · intro h
    obtain ⟨sign, digits, rfl, hsign, hdigits⟩ := exists_digits_of_decimal? h
    rw [decimal?_sign hsign hdigits, decimal?_of_digits hdigits,
      Option.ite_none_right_eq_some] at h
    obtain ⟨⟨hne, hlt⟩, hvalue⟩ := h
    cases hvalue
    exact ⟨sign, digits, rfl, hsign, hne, hdigits, rfl, hlt⟩
  · rintro ⟨sign, digits, rfl, hsign, hne, hdigits, rfl, hlt⟩
    rw [decimal?_sign hsign hdigits, decimal?_of_digits hdigits, if_pos ⟨hne, hlt⟩]

end RigScript.Text
