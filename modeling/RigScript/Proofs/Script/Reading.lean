import RigScript.Proofs.Text.Readers
import RigScript.Script.Line

/-! ## The lines that are read

A line that is kept is a part of one physical line, so it stands on one line itself. -/

namespace RigScript.Script

theorem newline_not_mem_of_mem_physicalLines {s raw : List Char} (h : raw ∈ physicalLines s) :
    '\n' ∉ raw := by
  induction s generalizing raw with
  | nil =>
      obtain rfl := List.mem_singleton.1 h
      exact List.not_mem_nil
  | cons c s ih =>
      rw [physicalLines] at h
      split at h
      · rcases List.mem_cons.1 h with rfl | hmem
        · exact List.not_mem_nil
        · exact ih hmem
      · rename_i hc
        split at h
        · obtain rfl := List.mem_singleton.1 h
          exact fun hmem => hc (List.mem_singleton.1 hmem).symm
        · rename_i l ls hlines
          rw [hlines] at ih
          rcases List.mem_cons.1 h with rfl | hmem
          · intro hmem
            rcases List.mem_cons.1 hmem with heq | hmem
            · exact hc heq.symm
            · exact ih List.mem_cons_self hmem
          · exact ih (List.mem_cons_of_mem _ hmem)

theorem physicalLines_ne_nil (s : List Char) : physicalLines s ≠ [] := by
  cases s with
  | nil => exact List.cons_ne_nil _ _
  | cons c s =>
      rw [physicalLines]
      split
      · exact List.cons_ne_nil _ _
      · split <;> exact List.cons_ne_nil _ _

/-- What has no line feed in it belongs to the first line. -/
theorem physicalLines_append_of_not_mem {l s raw : List Char} {raws : List (List Char)}
    (hl : '\n' ∉ l) (h : physicalLines s = raw :: raws) :
    physicalLines (l ++ s) = (l ++ raw) :: raws := by
  induction l with
  | nil => exact h
  | cons c l ih =>
      obtain ⟨hc, hl⟩ := not_or.1 (List.mem_cons.not.1 hl)
      rw [List.cons_append, physicalLines, if_neg (Ne.symm hc), ih hl]
      rfl

/-- A line feed ends a line. -/
theorem physicalLines_append_newline (s r : List Char) :
    physicalLines (s ++ '\n' :: r) = physicalLines s ++ physicalLines r := by
  induction s with
  | nil => rfl
  | cons c s ih =>
      rw [List.cons_append, physicalLines, physicalLines, ih]
      split
      · rfl
      · obtain ⟨raw, raws, hlines⟩ := List.exists_cons_of_ne_nil (physicalLines_ne_nil s)
        rw [hlines]
        rfl

theorem mem_of_mem_beforeComment {s : List Char} {c : Char} (h : c ∈ beforeComment s) : c ∈ s := by
  fun_induction beforeComment s with
  | case1 | case2 => cases h
  | case3 s ih =>
      rcases List.mem_cons.1 h with rfl | hmem
      · exact List.mem_cons_of_mem _ List.mem_cons_self
      · exact List.mem_cons_of_mem _ (List.mem_cons_of_mem _ (ih hmem))
  | case4 d s _ _ ih =>
      rcases List.mem_cons.1 h with rfl | hmem
      · exact List.mem_cons_self
      · exact List.mem_cons_of_mem _ (ih hmem)

theorem mem_of_mem_stripComment {s : List Char} {c : Char} (h : c ∈ stripComment s) : c ∈ s :=
  mem_of_mem_beforeComment (Text.mem_of_mem_trimEnd h)

theorem newline_not_mem_of_mem_kept {n : Nat} {opened : Option Nat} {raws : List (List Char)}
    (hraws : ∀ raw ∈ raws, '\n' ∉ raw) {l : Line} (h : l ∈ (readFrom n opened raws).kept) :
    '\n' ∉ l.text.toList := by
  fun_induction readFrom n opened raws with
  | case1 | case2 | case5 => cases h
  | case3 n raw raws _ _ ih | case4 n raw raws _ _ _ _ ih | case6 n opened raw raws _ _ _ _ ih =>
      exact ih (List.forall_mem_cons.1 hraws).2 h
  | case7 n opened raw raws line _ _ _ ih =>
      obtain ⟨hraw, hraws⟩ := List.forall_mem_cons.1 hraws
      rcases List.mem_cons.1 h with rfl | hmem
      · intro hnewline
        rw [String.toList_ofList] at hnewline
        exact hraw (Text.mem_of_mem_trim (mem_of_mem_stripComment hnewline))
      · exact ih hraws hmem

theorem newline_not_mem_of_readLines {source : String} {lines : List Line}
    (h : readLines source = .ok lines) : ∀ l ∈ lines, '\n' ∉ l.text.toList := by
  obtain rfl : (reading source).kept = lines := by
    unfold readLines at h
    dsimp only at h
    cases houtcome : (reading source).outcome with
    | error e =>
        rw [houtcome] at h
        cases h
    | ok opened =>
        rw [houtcome] at h
        exact Except.ok.inj h
  exact fun l hl =>
    newline_not_mem_of_mem_kept (fun _ => newline_not_mem_of_mem_physicalLines) hl

end RigScript.Script
