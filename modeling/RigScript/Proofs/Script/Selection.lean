import Mathlib.Data.List.Induction
import Mathlib.Data.List.Sort
import RigScript.Proofs.Script.Comment

/-! ## Which lines are kept

A line that is `---` or `!--`, apart from blanks around it, is a *marker*. Markers have to take
turns, `---` first: the first one that is out of turn is a fault, and without a fault exactly those
lines are kept that have an even number of markers before them and a text before their comment. The
reader knows the line of the block comment that is open; that there is one says that the number of
markers so far is odd. -/

namespace RigScript.Script

open Text

/-- The two markers of block comments. -/
inductive Marker where
  | opening | closing
  deriving DecidableEq, Repr

namespace Marker

/-- The marker whose turn it is behind this many others. -/
def due (n : Nat) : Marker := if n % 2 = 0 then opening else closing

/-- The fault of a marker out of turn. -/
def fault : Marker → Nat → ScriptError
  | opening, line => .nestedComment line
  | closing, line => .strayCommentEnd line

end Marker

/-- The marker that a physical line is, if it is one. -/
def marker? (raw : List Char) : Option Marker :=
  if trim raw = commentStart then some .opening
  else if trim raw = commentEnd then some .closing
  else none

def markers (raws : List (List Char)) : List Marker := raws.filterMap marker?

/-- Every marker comes when it is its turn. -/
def TakeTurns (ms : List Marker) : Prop :=
  ∀ (k : Nat) (m : Marker), ms[k]? = some m → m = .due k

/-- The first marker out of turn, with the number of its line. -/
inductive OutOfTurn (raws : List (List Char)) : Nat → Marker → Prop where
  | marker {before after : List (List Char)} {raw : List Char} {m : Marker}
      (hraws : raws = before ++ raw :: after) (hturns : TakeTurns (markers before))
      (hmarker : marker? raw = some m) (hturn : m ≠ .due (markers before).length) :
    OutOfTurn raws (before.length + 1) m

/-- A line to be kept: it is no marker and in no block comment, it is not all comment, and its text
before the comment is cut at the end. -/
inductive Kept (raws : List (List Char)) : Line → Prop where
  | line {before after : List (List Char)} {raw text : List Char}
      (hraws : raws = before ++ raw :: after) (hmarker : marker? raw = none)
      (heven : (markers before).length % 2 = 0) (hcomment : (trim raw).head? ≠ some '#')
      (htext : Uncommented (trim raw) text) (hne : trimEnd text ≠ []) :
    Kept raws ⟨before.length + 1, String.ofList (trimEnd text)⟩

variable {raws as bs : List (List Char)} {raw : List Char} {m : Marker} {n : Nat}
  {opened : Option Nat}

/-! ### Turns -/

@[simp] theorem markers_nil : markers [] = [] := rfl

theorem markers_append (as bs : List (List Char)) :
    markers (as ++ bs) = markers as ++ markers bs := List.filterMap_append

theorem markers_of_some (h : marker? raw = some m) (raws : List (List Char)) :
    markers (raw :: raws) = m :: markers raws := List.filterMap_cons_some h

theorem markers_of_none (h : marker? raw = none) (raws : List (List Char)) :
    markers (raw :: raws) = markers raws := List.filterMap_cons_none h

theorem takeTurns_nil : TakeTurns [] := by
  rintro k m ⟨⟩

theorem TakeTurns.concat {ms : List Marker} (h : TakeTurns ms) (hm : m = .due ms.length) :
    TakeTurns (ms ++ [m]) := by
  intro k m' hk
  rcases Nat.lt_trichotomy k ms.length with hlt | rfl | hlt
  · rw [List.getElem?_append_left hlt] at hk
    exact h k m' hk
  · rw [List.getElem?_concat_length] at hk
    exact (Option.some.inj hk).symm.trans hm
  · rw [List.getElem?_eq_none (by simpa using Nat.succ_le_of_lt hlt)] at hk
    cases hk

theorem OutOfTurn.not_takeTurns (h : OutOfTurn raws n m) : ¬ TakeTurns (markers raws) := by
  obtain ⟨hraws, _, hmarker, hturn⟩ := h
  intro hall
  refine hturn (hall _ _ ?_)
  rw [hraws, markers_append, markers_of_some hmarker, List.getElem?_append_right (Nat.le_refl _),
    Nat.sub_self]
  rfl

theorem OutOfTurn.append (h : OutOfTurn as n m) (bs : List (List Char)) :
    OutOfTurn (as ++ bs) n m := by
  obtain ⟨rfl, hturns, hmarker, hturn⟩ := h
  exact .marker (by rw [List.append_assoc]; rfl) hturns hmarker hturn

/-! ### The marker that the reader waits for -/

/-- The marker whose turn it is, by the block comment that is open. -/
def expected : Option Nat → Marker
  | none => .opening
  | some _ => .closing

/-- The block comment that is open behind a marker whose turn it was. -/
def turned (n : Nat) : Option Nat → Option Nat
  | none => some n
  | some _ => none

theorem due_succ (h : expected opened = .due n) (k : Nat) :
    expected (turned k opened) = .due (n + 1) := by
  have hparity : (n + 1) % 2 = 0 ↔ ¬ n % 2 = 0 := by omega
  cases opened <;> by_cases hn : n % 2 = 0 <;> simp_all [expected, turned, Marker.due]

theorem expected_eq_due_iff : expected opened = .due n ↔ (opened = none ↔ n % 2 = 0) := by
  cases opened <;> by_cases hn : n % 2 = 0 <;> simp [expected, Marker.due, hn]

/-! ### Reading one line -/

theorem readFrom_marker (h : marker? raw = some m) (raws : List (List Char)) :
    readFrom n opened (raw :: raws) =
      if m = expected opened then readFrom (n + 1) (turned n opened) raws
      else ⟨[], .error (m.fault n)⟩ := by
  unfold marker? at h
  split at h
  · rename_i hopening
    cases h
    cases opened <;> simp [readFrom, hopening, expected, turned, Marker.fault]
  · rename_i hopening
    split at h
    · rename_i hclosing
      cases h
      have hne : commentEnd ≠ commentStart := by decide
      cases opened <;> simp [readFrom, hclosing, hne, expected, turned, Marker.fault]
    · cases h

theorem readFrom_of_none (h : marker? raw = none) (raws : List (List Char)) :
    readFrom n opened (raw :: raws) =
      if opened.isSome || stripComment (trim raw) = [] then readFrom (n + 1) opened raws
      else (readFrom (n + 1) opened raws).keep ⟨n, String.ofList (stripComment (trim raw))⟩ := by
  unfold marker? at h
  split at h
  · cases h
  · rename_i hopening
    split at h
    · cases h
    · rename_i hclosing
      simp [readFrom, hopening, hclosing]

/-! ### Reading on -/

/-- Go on where a reading has come to its end without a fault. -/
def Reading.andThen (r : Reading) (next : Option Nat → Reading) : Reading :=
  match r.outcome with
  | .error _ => r
  | .ok opened => ⟨r.kept ++ (next opened).kept, (next opened).outcome⟩

theorem Reading.keep_andThen (l : Line) (r : Reading) (next : Option Nat → Reading) :
    (r.keep l).andThen next = (r.andThen next).keep l := by
  obtain ⟨kept, outcome⟩ := r
  cases outcome <;> rfl

theorem readFrom_append (n : Nat) (opened : Option Nat) (as bs : List (List Char)) :
    readFrom n opened (as ++ bs) =
      (readFrom n opened as).andThen fun opened => readFrom (n + as.length) opened bs := by
  induction as generalizing n opened with
  | nil => rfl
  | cons raw as ih =>
      have hlength : n + (raw :: as).length = n + 1 + as.length := by
        rw [List.length_cons]
        omega
      rw [List.cons_append, hlength]
      cases hmarker : marker? raw with
      | some m =>
          rw [readFrom_marker hmarker, readFrom_marker hmarker]
          split
          · exact ih _ _
          · rfl
      | none =>
          rw [readFrom_of_none hmarker, readFrom_of_none hmarker]
          split
          · exact ih _ _
          · rw [ih, Reading.keep_andThen]

/-! ### What a reading says of its lines -/

theorem Kept.append {l : Line} (h : Kept as l) (bs : List (List Char)) : Kept (as ++ bs) l := by
  obtain ⟨rfl, hmarker, heven, hcomment, htext, hne⟩ := h
  exact .line (by rw [List.append_assoc]; rfl) hmarker heven hcomment htext hne

theorem Kept.number_le {l : Line} (h : Kept raws l) : l.number ≤ raws.length := by
  obtain ⟨rfl, _, _, _, _, _⟩ := h
  simp

theorem stripComment_ne_nil_iff {line : List Char} :
    stripComment line ≠ [] ↔ line.head? ≠ some '#' ∧ trimEnd (beforeComment line) ≠ [] := by
  refine ⟨fun h => ⟨fun hhead => h ?_, h⟩, fun h => h.2⟩
  obtain ⟨r, rfl⟩ := List.head?_eq_some_iff.1 hhead
  rfl

/-- The last line is kept by what it is and by the number of markers before it. -/
theorem kept_concat_iff {l : Line} :
    Kept (raws ++ [raw]) l ↔ Kept raws l ∨
      marker? raw = none ∧ (markers raws).length % 2 = 0 ∧ stripComment (trim raw) ≠ [] ∧
        l = ⟨raws.length + 1, String.ofList (stripComment (trim raw))⟩ := by
  constructor
  · rintro ⟨hraws, hmarker, heven, hcomment, htext, hne⟩
    rename_i before after raw' text
    rcases List.eq_nil_or_concat after with rfl | ⟨after, last, rfl⟩
    · obtain ⟨rfl, hraw⟩ := List.append_inj' hraws rfl
      cases hraw
      obtain rfl := beforeComment_eq_iff.2 htext
      exact .inr ⟨hmarker, heven, hne, rfl⟩
    · rw [List.concat_eq_append, ← List.cons_append, ← List.append_assoc] at hraws
      obtain ⟨hraws, -⟩ := List.append_inj' hraws rfl
      exact .inl (.line hraws hmarker heven hcomment htext hne)
  · rintro (h | ⟨hmarker, heven, hne, rfl⟩)
    · exact h.append _
    · exact .line rfl hmarker heven (stripComment_ne_nil_iff.1 hne).1
        (uncommented_beforeComment _) hne

/-- What a reading from the first line on has found out about the lines. -/
inductive Verdict (raws : List (List Char)) : Reading → Prop where
  | finished {kept : List Line} {opened : Option Nat} (hturns : TakeTurns (markers raws))
      (hopened : expected opened = .due (markers raws).length)
      (hsorted : kept.Pairwise fun l l' => l.number < l'.number)
      (hkept : ∀ l, l ∈ kept ↔ Kept raws l) : Verdict raws ⟨kept, .ok opened⟩
  | stopped {kept : List Line} {n : Nat} {m : Marker} (hturn : OutOfTurn raws n m) :
      Verdict raws ⟨kept, .error (m.fault n)⟩

theorem Verdict.marker {kept : List Line} (h : Verdict raws ⟨kept, .ok opened⟩)
    (hmarker : marker? raw = some m) :
    Verdict (raws ++ [raw])
      (Reading.andThen ⟨kept, .ok opened⟩
        fun opened => readFrom (raws.length + 1) opened [raw]) := by
  cases h with
  | finished hturns hopened hsorted hkept =>
      have hmarkers : markers (raws ++ [raw]) = markers raws ++ [m] := by
        rw [markers_append, markers_of_some hmarker, markers_nil]
      dsimp only [Reading.andThen]
      rw [readFrom_marker hmarker]
      split
      · rename_i hm
        refine .finished ?_ ?_ (by simpa [readFrom] using hsorted) fun l => ?_
        · rw [hmarkers]
          exact hturns.concat (hm.trans hopened)
        · rw [hmarkers, List.length_append]
          exact due_succ hopened _
        · simp [readFrom, hkept, kept_concat_iff, hmarker]
      · rename_i hm
        exact .stopped (.marker rfl hturns hmarker (hopened ▸ hm))

theorem Verdict.plain {kept : List Line} (h : Verdict raws ⟨kept, .ok opened⟩)
    (hmarker : marker? raw = none) :
    Verdict (raws ++ [raw])
      (Reading.andThen ⟨kept, .ok opened⟩
        fun opened => readFrom (raws.length + 1) opened [raw]) := by
  cases h with
  | finished hturns hopened hsorted hkept =>
      have hmarkers : markers (raws ++ [raw]) = markers raws := by
        rw [markers_append, markers_of_none hmarker, markers_nil, List.append_nil]
      have hclosed := expected_eq_due_iff.1 hopened
      dsimp only [Reading.andThen]
      rw [readFrom_of_none hmarker]
      split
      · -- A block comment is open, or nothing is left of the line.
        rename_i hskip
        refine .finished (hmarkers ▸ hturns) (hmarkers ▸ hopened)
          (by simpa [readFrom] using hsorted) fun l => ?_
        have hnot : ¬ ((markers raws).length % 2 = 0 ∧ stripComment (trim raw) ≠ []) := by
          rintro ⟨heven, hne⟩
          rw [hclosed.2 heven] at hskip
          simp [hne] at hskip
        simp only [readFrom, List.append_nil, hkept, kept_concat_iff, hmarker, true_and]
        exact (or_iff_left fun h => hnot ⟨h.1, h.2.1⟩).symm
      · rename_i hskip
        obtain ⟨hnone, hne⟩ : opened = none ∧ stripComment (trim raw) ≠ [] := by
          simpa using hskip
        refine .finished (hmarkers ▸ hturns) (hmarkers ▸ hopened) ?_ fun l => ?_
        · -- The line stands behind all that are kept so far.
          refine List.pairwise_append.2 ⟨hsorted, List.pairwise_singleton _ _, ?_⟩
          rintro l hl l' hl'
          obtain rfl := List.mem_singleton.1 hl'
          exact Nat.lt_succ_of_le ((hkept l).1 hl).number_le
        · simp [readFrom, Reading.keep, hkept, kept_concat_iff, hmarker, hclosed.1 hnone, hne]

/-- One more line. -/
theorem Verdict.concat {r : Reading} (h : Verdict raws r) (raw : List Char) :
    Verdict (raws ++ [raw]) (r.andThen fun opened => readFrom (raws.length + 1) opened [raw]) := by
  cases h with
  | stopped hturn => exact .stopped (hturn.append _)
  | finished hturns hopened hsorted hkept =>
      have h := Verdict.finished hturns hopened hsorted hkept
      cases hmarker : marker? raw with
      | some m => exact h.marker hmarker
      | none => exact h.plain hmarker

theorem verdict (raws : List (List Char)) : Verdict raws (readFrom 1 none raws) := by
  induction raws using List.reverseRecOn with
  | nil =>
      refine .finished takeTurns_nil rfl .nil fun l => iff_of_false List.not_mem_nil ?_
      rintro ⟨hraws, -⟩
      simp at hraws
  | append_singleton raws raw ih =>
      rw [readFrom_append, Nat.add_comm]
      exact ih.concat raw

/-- A marker out of turn is where the reading stops. -/
theorem outcome_of_outOfTurn (h : OutOfTurn raws n m) :
    (readFrom 1 none raws).outcome = .error (m.fault n) := by
  obtain ⟨rfl, hturns, hmarker, hturn⟩ := h
  rename_i before after raw
  rw [readFrom_append]
  have hverdict := verdict before
  generalize readFrom 1 none before = r at hverdict
  cases hverdict with
  | stopped hfault => exact absurd hturns hfault.not_takeTurns
  | finished _ hopened _ _ =>
      dsimp only [Reading.andThen]
      rw [readFrom_marker hmarker, if_neg (hopened ▸ hturn), Nat.add_comm]

/-! ### The lines of a text -/

theorem readLines_eq (source : String) :
    readLines source = (readFrom 1 none (physicalLines source.toList)).outcome.map
      fun _ => (readFrom 1 none (physicalLines source.toList)).kept := rfl

/-- Lines in the order of their numbers are known by what is among them. -/
theorem eq_of_mem_iff {lines lines' : List Line}
    (h : lines.Pairwise fun l l' => l.number < l'.number)
    (h' : lines'.Pairwise fun l l' => l.number < l'.number)
    (hmem : ∀ l, l ∈ lines ↔ l ∈ lines') : lines = lines' := by
  have : Std.Irrefl fun l l' : Line => l.number < l'.number := ⟨fun l => Nat.lt_irrefl _⟩
  have : Std.Antisymm fun l l' : Line => l.number < l'.number :=
    ⟨fun _ _ hlt hgt => absurd (Nat.lt_trans hlt hgt) (Nat.lt_irrefl _)⟩
  exact h.eq_of_mem_iff h' hmem

/-- A text is read just if its markers take turns. Then the lines that are read are those to be
kept, in the order of their numbers; otherwise the first marker out of turn is the fault. -/
theorem readLines_selects (source : String) :
    ((∃ lines, readLines source = .ok lines) ↔
      TakeTurns (markers (physicalLines source.toList))) ∧
    (∀ lines, readLines source = .ok lines ↔
      TakeTurns (markers (physicalLines source.toList)) ∧
        (lines.Pairwise fun l l' => l.number < l'.number) ∧
        ∀ l, l ∈ lines ↔ Kept (physicalLines source.toList) l) ∧
    (∀ e, readLines source = .error e ↔
      ∃ n m, OutOfTurn (physicalLines source.toList) n m ∧ e = m.fault n) := by
  rw [readLines_eq]
  generalize physicalLines source.toList = raws
  have hfault := @outcome_of_outOfTurn raws
  have hverdict := verdict raws
  generalize readFrom 1 none raws = r at hverdict hfault
  cases hverdict with
  | @finished kept opened hturns _ hsorted hkept =>
      refine ⟨iff_of_true ⟨kept, rfl⟩ hturns, fun lines => ⟨?_, ?_⟩, fun e => ⟨nofun, ?_⟩⟩
      · rintro ⟨⟩
        exact ⟨hturns, hsorted, hkept⟩
      · rintro ⟨-, hsorted', hkept'⟩
        rw [eq_of_mem_iff hsorted' hsorted fun l => (hkept' l).trans (hkept l).symm]
        rfl
      · rintro ⟨n, m, hturn, -⟩
        exact absurd hturns hturn.not_takeTurns
  | @stopped kept n m hturn =>
      refine ⟨iff_of_false (fun ⟨_, h⟩ => nomatch h) hturn.not_takeTurns,
        fun lines => iff_of_false nofun fun h => hturn.not_takeTurns h.1, fun e => ⟨?_, ?_⟩⟩
      · rintro ⟨⟩
        exact ⟨n, m, hturn, rfl⟩
      · rintro ⟨n', m', hturn', rfl⟩
        exact congrArg (Except.map fun _ => kept) (hfault hturn')

example : readLines "A # 1\n---\nB\n!--\n \\# \\#C#D" = .ok [⟨1, "A"⟩, ⟨5, "# #C"⟩] := by
  decide +kernel

end RigScript.Script
