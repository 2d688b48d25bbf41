import Mathlib.Data.List.Sort
import RigScript.Macro.Table

/-! ## The order of a table

A map lists its names in order, each once, whatever the order in which they were put in. So what a
table lists is known as soon as it is known what stands under each name. -/

namespace RigScript

namespace NameMap

variable {α : Type} {m : NameMap α} {l : List (String × α)} {name : String} {a : α}

/-- An insertion brings in no other name. -/
theorem eq_or_mem_of_mem_insertIn {e : String × α} (h : e ∈ insertIn name a l) :
    e.1 = name ∨ e ∈ l := by
  induction l with
  | nil =>
      obtain rfl := List.mem_singleton.1 h
      exact .inl rfl
  | cons d l ih =>
      rw [insertIn] at h
      split at h
      · rcases List.mem_cons.1 h with rfl | hmem
        · exact .inl rfl
        · exact .inr (List.mem_cons_of_mem _ hmem)
      · split at h
        · rcases List.mem_cons.1 h with rfl | hmem
          · exact .inl rfl
          · exact .inr hmem
        · rcases List.mem_cons.1 h with rfl | hmem
          · exact .inr List.mem_cons_self
          · exact (ih hmem).imp_right (List.mem_cons_of_mem _)

theorem pairwise_insertIn (name : String) (a : α) (h : l.Pairwise (·.1 < ·.1)) :
    (insertIn name a l).Pairwise (·.1 < ·.1) := by
  induction l with
  | nil => exact List.pairwise_singleton _ _
  | cons d l ih =>
      obtain ⟨hd, hl⟩ := List.pairwise_cons.1 h
      rw [insertIn]
      split
      · rename_i heq
        exact List.pairwise_cons.2 ⟨heq ▸ hd, hl⟩
      · rename_i hne
        split
        · rename_i hlt
          refine List.pairwise_cons.2 ⟨List.forall_mem_cons.2 ⟨hlt, fun e he => ?_⟩, h⟩
          exact String.lt_trans hlt (hd e he)
        · rename_i hge
          refine List.pairwise_cons.2 ⟨fun e he => ?_, ih hl⟩
          rcases eq_or_mem_of_mem_insertIn he with heq | hmem
          · rw [heq]
            by_contra hle
            exact hne (String.le_antisymm (String.not_lt.1 hle) (String.not_lt.1 hge))
          · exact hd e hmem

/-- In an ordered list the first entry of a name is its one entry. -/
theorem mem_iff_findIn (h : l.Pairwise (·.1 < ·.1)) :
    (name, a) ∈ l ↔ findIn name l = some a := by
  induction l with
  | nil => simp [findIn]
  | cons d l ih =>
      obtain ⟨hd, hl⟩ := List.pairwise_cons.1 h
      rw [findIn, List.mem_cons, ih hl]
      split
      · rename_i heq
        constructor
        · rintro (hd' | hfind)
          · rw [← hd']
          · exact absurd (hd _ ((ih hl).2 hfind)) (heq ▸ String.lt_irrefl _)
        · intro hd'
          rw [heq, ← Option.some.inj hd']
          exact .inl rfl
      · rename_i hne
        constructor
        · rintro (rfl | hfind)
          · exact absurd rfl hne
          · exact hfind
        · exact .inr

/-- The names stand in order, each once. -/
def Ordered (m : NameMap α) : Prop := m.entries.Pairwise (·.1 < ·.1)

theorem ordered_empty : ({} : NameMap α).Ordered := .nil

theorem Ordered.insert (h : m.Ordered) (name : String) (a : α) : (m.insert name a).Ordered :=
  pairwise_insertIn name a h

theorem Ordered.mem_entries_iff (h : m.Ordered) :
    (name, a) ∈ m.entries ↔ m.find? name = some a := mem_iff_findIn h

end NameMap

namespace MacroTable

variable {t t' : MacroTable}

theorem mem_variableEntries_iff (h : t.Ordered) {name : String} {text : Option String} :
    (name, text) ∈ t.variableEntries ↔ t.find? name = some (.variable text) := by
  rw [← h.mem_entries_iff, variableEntries, List.mem_filterMap]
  constructor
  · rintro ⟨⟨name', value⟩, hmem, hvalue⟩
    match value with
    | .constant _ => cases hvalue
    | .variable _ =>
        cases hvalue
        exact hmem
  · exact fun hmem => ⟨_, hmem, rfl⟩

theorem pairwise_variableEntries (h : t.Ordered) : t.variableEntries.Pairwise (·.1 < ·.1) := by
  refine List.pairwise_filterMap.2 (h.imp ?_)
  rintro ⟨name, value⟩ ⟨name', value'⟩ hlt e he e' he'
  match value, value' with
  | .constant _, _ => cases he
  | .variable _, .constant _ => cases he'
  | .variable _, .variable _ =>
      cases he
      cases he'
      exact hlt

/-- Two tables list the same variables if each knows those of the other. -/
theorem variableEntries_eq (h : t.Ordered) (h' : t'.Ordered)
    (hsame : ∀ name text,
      t.find? name = some (.variable text) ↔ t'.find? name = some (.variable text)) :
    t.variableEntries = t'.variableEntries := by
  have : Std.Irrefl fun e e' : String × Option String => e.1 < e'.1 :=
    ⟨fun e => String.lt_irrefl e.1⟩
  have : Std.Antisymm fun e e' : String × Option String => e.1 < e'.1 :=
    ⟨fun _ _ hlt hgt => absurd hgt (String.lt_asymm hlt)⟩
  refine (pairwise_variableEntries h).eq_of_mem_iff (pairwise_variableEntries h') ?_
  rintro ⟨name, text⟩
  rw [mem_variableEntries_iff h, mem_variableEntries_iff h', hsame name text]

theorem mem_constantEntries_iff (h : t.Ordered) {name text : String} :
    (name, text) ∈ t.constantEntries ↔ t.find? name = some (.constant text) := by
  rw [← h.mem_entries_iff, constantEntries, List.mem_filterMap]
  constructor
  · rintro ⟨⟨name', value⟩, hmem, hvalue⟩
    match value with
    | .constant _ =>
        cases hvalue
        exact hmem
    | .variable _ => cases hvalue
  · exact fun hmem => ⟨_, hmem, rfl⟩

theorem constantEntries_eq_nil (h : t.Ordered)
    (hnone : ∀ name text, t.find? name ≠ some (.constant text)) : t.constantEntries = [] := by
  refine List.eq_nil_iff_forall_not_mem.2 ?_
  rintro ⟨name, text⟩ hmem
  exact hnone name text ((mem_constantEntries_iff h).1 hmem)

end MacroTable

end RigScript
