import Mathlib.Data.Nat.Basic
import Mathlib.Order.RelClasses
import RigScript.Version

/-! ## Versions as numbers

A version is a numeral of four digits to the base 2^32. Comparing versions component by component,
from the left, is comparing the numbers that they stand for, so a gate asks how two numbers stand
to each other, and versions are ordered as numbers are. -/

namespace RigScript

/-- The relation between two numbers. -/
def Relation.Holds : Relation → Nat → Nat → Prop
  | .atMost, m, n => m ≤ n
  | .below, m, n => m < n
  | .exactly, m, n => m = n
  | .atLeast, m, n => m ≥ n
  | .above, m, n => m > n

namespace Version

variable {a b : Version}

/-- The number of which the components are the digits, to the base 2^32. -/
def number (v : Version) : Nat :=
  ((v.major.toNat * UInt32.size + v.minor.toNat) * UInt32.size + v.patch.toNat) * UInt32.size +
    v.build.toNat

/-! ### Numerals -/

/-- Numerals are compared by their last digits only if all others agree. -/
theorem compare_mul_add {base p q x y : Nat} (hx : x < base) (hy : y < base) :
    Ord.compare (p * base + x) (q * base + y) = (Ord.compare p q).then (Ord.compare x y) := by
  -- The last digit is too small to make up for a difference in front of it.
  have hbelow : ∀ {p q x y : Nat}, x < base → p < q → p * base + x < q * base + y := by
    intro p q x y hx hlt
    have hnext : (p + 1) * base ≤ q * base := Nat.mul_le_mul_right base hlt
    rw [Nat.add_mul, Nat.one_mul] at hnext
    omega
  rcases Nat.lt_trichotomy p q with hlt | rfl | hgt
  · rw [Nat.compare_eq_lt.2 hlt, Nat.compare_eq_lt.2 (hbelow hx hlt)]
    rfl
  · rw [Nat.compare_eq_eq.2 rfl]
    change _ = Ord.compare x y
    cases hlast : Ord.compare x y with
    | lt =>
        rw [Nat.compare_eq_lt] at hlast ⊢
        exact Nat.add_lt_add_left hlast _
    | eq =>
        rw [Nat.compare_eq_eq] at hlast ⊢
        rw [hlast]
    | gt =>
        rw [Nat.compare_eq_gt] at hlast ⊢
        exact Nat.add_lt_add_left hlast _
  · rw [Nat.compare_eq_gt.2 hgt, Nat.compare_eq_gt.2 (hbelow hy hgt)]
    rfl

theorem compare_eq_compare_number (a b : Version) :
    a.compare b = Ord.compare a.number b.number := by
  have hlt : ∀ n : UInt32, n.toNat < UInt32.size := UInt32.toNat_lt_size
  rw [number, number, compare_mul_add (hlt _) (hlt _), compare_mul_add (hlt _) (hlt _),
    compare_mul_add (hlt _) (hlt _), Ordering.then_assoc, Ordering.then_assoc]
  rfl

/-! ### Order -/

theorem compare_eq_eq_iff : a.compare b = .eq ↔ a = b := by
  obtain ⟨_, _, _, _⟩ := a
  obtain ⟨_, _, _, _⟩ := b
  simp [compare, Ordering.then_eq_eq, UInt32.toNat_inj]

theorem number_injective : Function.Injective number := by
  intro a b h
  rw [← compare_eq_eq_iff, compare_eq_compare_number, h]
  exact Nat.compare_eq_eq.2 rfl

theorem compare_eq_lt_iff : a.compare b = .lt ↔ a.components < b.components := by
  simp [compare, components, Ordering.then_eq_lt, Nat.compare_eq_lt, List.cons_lt_cons_iff,
    UInt32.lt_iff_toNat_lt, UInt32.toNat_inj]

/-- The components are compared from the left, and the first that differ decide. -/
theorem components_le_iff : a.components ≤ b.components ↔ a.number ≤ b.number := by
  rw [← List.not_lt, ← compare_eq_lt_iff, compare_eq_compare_number, Nat.compare_eq_lt, Nat.not_lt]

end Version

namespace Relation

variable {r : Relation} {a b : Version}

theorem accepts_iff_holds : r.accepts a b = true ↔ r.Holds a.number b.number := by
  unfold accepts
  rw [Version.compare_eq_compare_number]
  cases r with
  | atMost => exact Nat.isLE_compare
  | below => exact Ordering.isLT_iff_eq_lt.trans Nat.compare_eq_lt
  | exactly => exact Ordering.isEq_iff_eq_eq.trans Nat.compare_eq_eq
  | atLeast => exact Nat.isGE_compare
  | above => exact Ordering.isGT_iff_eq_gt.trans Nat.compare_eq_gt

/-- Versions are ordered as their numbers are. -/
theorem isLinearOrder_atMost :
    IsLinearOrder Version fun a b => Relation.atMost.accepts a b = true := by
  have horder : IsLinearOrder Version fun a b : Version => a.number ≤ b.number :=
    Version.number_injective.isLinearOrder_onFun (· ≤ ·)
  simpa only [accepts_iff_holds, Holds] using horder

end Relation

namespace Gate

/-- A relation between versions is the same relation between their numbers, and so is a gate. The
order of versions, component by component from the left, is therefore a total one, and what a gate
asks at least it admits of every greater version. -/
theorem admits_as_numbers :
    (∀ (r : Relation) (a b : Version), r.accepts a b = true ↔ r.Holds a.number b.number) ∧
      (∀ (g : Gate) (a : Version),
        g.admits a = true ↔ g.relation.Holds a.number g.version.number) ∧
      (∀ a b : Version, Relation.atMost.accepts a b = true ↔ a.components ≤ b.components) ∧
      (IsLinearOrder Version fun a b => Relation.atMost.accepts a b = true) ∧
      ∀ (g : Gate) (a b : Version), g.relation = .atLeast ∨ g.relation = .above →
        g.admits a = true → Relation.atMost.accepts a b = true → g.admits b = true := by
  refine ⟨fun _ _ _ => Relation.accepts_iff_holds, fun _ _ => Relation.accepts_iff_holds,
    fun a b => ?_, Relation.isLinearOrder_atMost, fun g a b hrelation hadmits hle => ?_⟩
  · rw [Version.components_le_iff]
    exact Relation.accepts_iff_holds
  · obtain ⟨relation, requested⟩ := g
    rw [admits, Relation.accepts_iff_holds] at hadmits ⊢
    have hnumber : a.number ≤ b.number := Relation.accepts_iff_holds.1 hle
    rcases hrelation with rfl | rfl
    · exact Nat.le_trans hadmits hnumber
    · exact Nat.lt_of_lt_of_le hadmits hnumber

/-- A greater component in front outweighs all that stand behind it. -/
theorem admits_as_numbers_outweighed :
    (⟨.above, 1, 9, 4294967295, 0⟩ : Gate).admits ⟨1, 10, 0, 0⟩ = true ∧
      (⟨.above, 1, 9, 4294967295, 0⟩ : Gate).admits ⟨2, 0, 0, 4294967295⟩ = true := by
  have hadmits : (⟨.above, 1, 9, 4294967295, 0⟩ : Gate).admits ⟨1, 10, 0, 0⟩ = true := by decide
  exact ⟨hadmits, admits_as_numbers.2.2.2.2 _ _ _ (.inr rfl) hadmits (by decide)⟩

end Gate

end RigScript
