import RigScript.Proofs.Script.Selection

/-! ## Comments behind a line

What is behind a `#` is cut off before a line is kept, but whether the line is a marker is asked
before anything is cut off. A comment may therefore be put behind every line that is no marker.
Behind a marker it turns the marker into a line like others, and the reading goes on as if the
block comment were not opened or not closed. -/

namespace RigScript.Script

open Text

variable {s r line comment raw raw' : List Char} {bs : List (List Char)} {m : Marker} {n : Nat}
  {opened : Option Nat}

/-! ### The text before the comment -/

theorem beforeComment_append_cases (hr : r.head? ≠ some '#') (s : List Char) :
    beforeComment (s ++ r) = beforeComment s ∨
      beforeComment (s ++ r) = beforeComment s ++ beforeComment r := by
  fun_induction beforeComment s with
  | case1 => exact .inr rfl
  | case2 => exact .inl rfl
  | case3 s ih => exact ih.imp (congrArg ('#' :: ·)) (congrArg ('#' :: ·))
  | case4 c s hc hs ih =>
      have hcons : beforeComment (c :: s ++ r) = c :: beforeComment (s ++ r) := by
        refine beforeComment_cons hc fun hbackslash hhead => ?_
        cases s with
        | nil => exact hr hhead
        | cons d s =>
            cases hhead
            exact hs s hbackslash rfl
      rw [hcons]
      exact ih.imp (congrArg (c :: ·)) (congrArg (c :: ·))

/-- A comment behind a text is cut off again, with the blanks in front of it. -/
theorem stripComment_append_comment {b : List Char} (hb : ∀ c ∈ b, isBlank c) (s : List Char) :
    stripComment (s ++ (b ++ ' ' :: '#' :: r)) = stripComment s := by
  have hblank : ∀ c ∈ b ++ [' '], isBlank c := by
    intro c hc
    rcases List.mem_append.1 hc with hc | hc
    · exact hb c hc
    · obtain rfl := List.mem_singleton.1 hc
      decide
  have hplain : '#' ∉ b ++ [' '] := fun hmem => absurd (hblank '#' hmem) (by decide)
  have hspace : beforeComment (b ++ ' ' :: '#' :: r) = b ++ [' '] := by
    have h := beforeComment_append (r := '#' :: r) hplain (by simp)
    rw [List.append_assoc] at h
    exact h.trans (List.append_nil _)
  have hhead : (b ++ ' ' :: '#' :: r).head? ≠ some '#' := by
    cases b with
    | nil => simp
    | cons c b =>
        rintro ⟨⟩
        exact absurd (hb '#' List.mem_cons_self) (by decide)
  rw [stripComment, stripComment]
  rcases beforeComment_append_cases hhead s with h | h
  · rw [h]
  · rw [h, hspace, trimEnd_append_of_blank hblank]

theorem stripComment_trim_comment (line comment : List Char) :
    stripComment (trim (line ++ ' ' :: '#' :: comment)) = stripComment (trim line) := by
  rw [trim, trim, trimStart, List.dropWhile_append, ← trimStart, ← trimStart]
  split
  · -- The line is blank, and becomes a line that is all comment.
    rename_i hnil
    rw [List.isEmpty_iff.1 hnil, trimStart_cons, if_pos (by decide), trimStart_cons,
      if_neg (by decide), trimEnd_cons, if_neg fun h => absurd h.2 (by decide)]
    rfl
  · obtain ⟨b, hb, hblank⟩ := trimEnd_append_blanks (trimStart line)
    have hcut : trimEnd (trimStart line ++ ' ' :: '#' :: comment) =
        trimEnd (trimStart line) ++ (b ++ ' ' :: '#' :: trimEnd comment) := by
      have h := trimEnd_append_cons (c := '#') (by decide) (trimStart line ++ [' ']) comment
      rw [List.append_assoc] at h
      rw [show ' ' :: '#' :: comment = [' '] ++ '#' :: comment from rfl, h]
      conv_lhs => rw [hb]
      simp
    rw [hcut, stripComment_append_comment (List.all_eq_true.1 hblank)]

/-! ### Markers -/

/-- A line with a `#` is no marker. -/
theorem marker?_of_comment (h : '#' ∈ raw) : marker? raw = none := by
  have hmem := mem_trim h (by decide)
  unfold marker?
  rw [if_neg, if_neg]
  · rintro heq
    rw [heq] at hmem
    exact absurd hmem (by decide)
  · rintro heq
    rw [heq] at hmem
    exact absurd hmem (by decide)

theorem stripComment_ne_nil_of_marker (h : marker? raw = some m) :
    stripComment (trim raw) ≠ [] := by
  unfold marker? at h
  split at h
  · rename_i heq
    rw [heq]
    decide
  · split at h
    · rename_i heq
      rw [heq]
      decide
    · cases h

theorem marker?_append_of_blank {b : List Char} (hb : ∀ c ∈ b, isBlank c) (s : List Char) :
    marker? (s ++ b) = marker? s := by
  rw [marker?, marker?, trim_append_of_blank hb]

/-! ### Where a reading stops -/

theorem line?_fault (m : Marker) (n : Nat) : (m.fault n).line? = some n := by cases m <;> rfl

theorem outcome_of_none (h : marker? raw = none) (raws : List (List Char)) :
    (readFrom n opened (raw :: raws)).outcome = (readFrom (n + 1) opened raws).outcome := by
  rw [readFrom_of_none h]
  split <;> rfl

/-- A reading stops at one of its lines. -/
theorem exists_line_of_fault {e : ScriptError} (h : (readFrom n opened bs).outcome = .error e) :
    ∃ i, e.line? = some i ∧ n ≤ i := by
  induction bs generalizing n opened with
  | nil => cases h
  | cons raw bs ih =>
      have hlater : ∀ {opened : Option Nat},
          (readFrom (n + 1) opened bs).outcome = .error e → ∃ i, e.line? = some i ∧ n ≤ i := by
        intro opened h
        obtain ⟨i, hi, hle⟩ := ih h
        exact ⟨i, hi, Nat.le_of_succ_le hle⟩
      cases hmarker : marker? raw with
      | some m =>
          rw [readFrom_marker hmarker] at h
          split at h
          · exact hlater h
          · cases h
            exact ⟨n, line?_fault m n, Nat.le_refl n⟩
      | none =>
          rw [outcome_of_none hmarker] at h
          exact hlater h

theorem outcome_ne_fault {α : Type} {f : Option Nat → α} :
    (readFrom (n + 1) opened bs).outcome.map f ≠ .error (m.fault n) := by
  intro h
  cases houtcome : (readFrom (n + 1) opened bs).outcome with
  | ok opened =>
      rw [houtcome] at h
      cases h
  | error e =>
      rw [houtcome] at h
      cases h
      obtain ⟨i, hi, hle⟩ := exists_line_of_fault houtcome
      rw [line?_fault] at hi
      cases hi
      exact Nat.not_succ_le_self n hle

/-! ### One reading in a block comment and one outside

The next marker is out of turn for one of them, which stops there, while the other one goes on. -/

theorem readFrom_open_of_plain {k : Nat} (hplain : ∀ b ∈ bs, marker? b = none) :
    readFrom n (some k) bs = ⟨[], .ok (some k)⟩ := by
  induction bs generalizing n with
  | nil => rfl
  | cons raw bs ih =>
      obtain ⟨hmarker, hplain⟩ := List.forall_mem_cons.1 hplain
      rw [readFrom_of_none hmarker, if_pos (by simp)]
      exact ih hplain

theorem readFrom_closed_of_plain (hplain : ∀ b ∈ bs, marker? b = none) :
    (readFrom n none bs).outcome = .ok none ∧
      ((readFrom n none bs).kept = [] ↔ ∀ b ∈ bs, stripComment (trim b) = []) := by
  induction bs generalizing n with
  | nil => exact ⟨rfl, iff_of_true rfl (by simp)⟩
  | cons raw bs ih =>
      obtain ⟨hmarker, hplain⟩ := List.forall_mem_cons.1 hplain
      obtain ⟨houtcome, hkept⟩ := ih (n := n + 1) hplain
      rw [readFrom_of_none hmarker, List.forall_mem_cons]
      by_cases hstrip : stripComment (trim raw) = []
      · rw [if_pos (by simp [hstrip])]
        exact ⟨houtcome, hkept.trans (by simp [hstrip])⟩
      · rw [if_neg (by simp [hstrip])]
        exact ⟨houtcome, iff_of_false (List.cons_ne_nil _ _) fun h => hstrip h.1⟩

theorem outcome_ne_of_marker {α : Type} {f g : Option Nat → α} {k : Nat}
    (h : ∃ b ∈ bs, marker? b ≠ none) :
    (readFrom n none bs).outcome.map f ≠ (readFrom n (some k) bs).outcome.map g := by
  induction bs generalizing n with
  | nil => simp at h
  | cons raw bs ih =>
      cases hmarker : marker? raw with
      | none =>
          have hrest : ∃ b ∈ bs, marker? b ≠ none := by simpa [hmarker] using h
          rw [outcome_of_none hmarker, outcome_of_none hmarker]
          exact ih hrest
      | some m =>
          rw [readFrom_marker hmarker, readFrom_marker hmarker]
          cases m with
          | opening => exact outcome_ne_fault
          | closing => exact outcome_ne_fault.symm

/-- What a reading answers. -/
def Reading.result (r : Reading) : Except ScriptError (List Line) := r.outcome.map fun _ => r.kept

theorem result_closed_eq_open_iff {k : Nat} :
    (readFrom n none bs).result = (readFrom n (some k) bs).result ↔
      ∀ b ∈ bs, stripComment (trim b) = [] := by
  by_cases hplain : ∀ b ∈ bs, marker? b = none
  · obtain ⟨houtcome, hkept⟩ := readFrom_closed_of_plain (n := n) hplain
    rw [readFrom_open_of_plain hplain, Reading.result, Reading.result, houtcome, ← hkept]
    exact ⟨fun h => Except.ok.inj h, fun h => congrArg Except.ok h⟩
  · refine iff_of_false (outcome_ne_of_marker (by simpa using hplain)) fun hstrip => hplain ?_
    intro b hb
    cases hmarker : marker? b with
    | none => rfl
    | some m => exact absurd (hstrip b hb) (stripComment_ne_nil_of_marker hmarker)

/-! ### A marker that is turned into a line -/

/-- Behind the same reading, a marker and a line with its text lead to the same only if the marker
closes a block comment behind which there is nothing to be kept. -/
theorem result_marker_iff (hmarker : marker? raw = some m) (hmarker' : marker? raw' = none)
    (hstrip : stripComment (trim raw') = stripComment (trim raw)) :
    (readFrom n opened (raw' :: bs)).result = (readFrom n opened (raw :: bs)).result ↔
      m = .closing ∧ opened.isSome ∧ ∀ b ∈ bs, stripComment (trim b) = [] := by
  have hne := hstrip ▸ stripComment_ne_nil_of_marker hmarker
  rw [readFrom_marker hmarker, readFrom_of_none hmarker']
  cases opened with
  | none =>
      rw [if_neg (by simpa using hne)]
      refine iff_of_false ?_ (by simp)
      cases m with
      | opening =>
          intro h
          by_cases hplain : ∀ b ∈ bs, marker? b = none
          · -- The line itself is kept where it is no marker, and nothing is in a block comment.
            rw [if_pos (show Marker.opening = expected none from rfl), turned,
              readFrom_open_of_plain hplain, Reading.result, Reading.keep,
              (readFrom_closed_of_plain hplain).1] at h
            cases h
          · exact outcome_ne_of_marker (by simpa using hplain) h
      | closing => exact outcome_ne_fault
  | some k =>
      rw [if_pos (by simp)]
      cases m with
      | opening => exact iff_of_false outcome_ne_fault (by simp)
      | closing =>
          rw [if_pos (show Marker.closing = expected (some k) from rfl), eq_comm, turned,
            result_closed_eq_open_iff]
          simp

theorem Reading.result_andThen_eq_iff {r : Reading} {next next' : Option Nat → Reading} :
    (r.andThen next').result = (r.andThen next).result ↔
      ∀ opened, r.outcome = .ok opened → (next' opened).result = (next opened).result := by
  obtain ⟨kept, outcome⟩ := r
  cases outcome with
  | error e => exact iff_of_true rfl nofun
  | ok opened =>
      have hresult : ∀ next : Option Nat → Reading, (andThen ⟨kept, .ok opened⟩ next).result =
          (next opened).result.map (kept ++ ·) := by
        intro next
        cases houtcome : (next opened).outcome <;> simp [andThen, result, houtcome, Except.map]
      rw [hresult, hresult]
      refine ⟨fun h opened' hopened => ?_, fun h => by rw [h opened rfl]⟩
      cases hopened
      revert h
      cases (next' opened).result <;> cases (next opened).result <;> simp [Except.map]

/-- A line is replaced by one with the same text that is no marker, among other lines. -/
theorem result_replace_iff (as : List (List Char)) (hmarker' : marker? raw' = none)
    (hstrip : stripComment (trim raw') = stripComment (trim raw)) :
    (readFrom n opened (as ++ raw' :: bs)).result = (readFrom n opened (as ++ raw :: bs)).result ↔
      marker? raw = none ∨ (∃ e, (readFrom n opened as).outcome = .error e) ∨
        marker? raw = some .closing ∧
          (∃ k, (readFrom n opened as).outcome = .ok (some k)) ∧
          ∀ b ∈ bs, stripComment (trim b) = [] := by
  rw [readFrom_append, readFrom_append, Reading.result_andThen_eq_iff]
  cases houtcome : (readFrom n opened as).outcome with
  | error e => exact iff_of_true nofun (.inr (.inl ⟨e, rfl⟩))
  | ok opened =>
      cases hmarker : marker? raw with
      | none =>
          refine iff_of_true (fun _ _ => ?_) (.inl rfl)
          rw [readFrom_of_none hmarker', hstrip, readFrom_of_none hmarker]
      | some m =>
          simp only [Except.ok.injEq, forall_eq', result_marker_iff hmarker hmarker' hstrip]
          simp [Option.isSome_iff_exists]

theorem readLines_ofList (text : List Char) :
    readLines (String.ofList text) = (readFrom 1 none (physicalLines text)).result := by
  rw [readLines_eq, String.toList_ofList]
  rfl

theorem Reading.exists_result_error {r : Reading} :
    (∃ e, r.result = .error e) ↔ ∃ e, r.outcome = .error e := by
  rw [Reading.result]
  cases r.outcome <;> simp [Except.map]

/-! ### Lines of a text -/

/-- A line of a text, with what is before and behind it. It ends with the text or at a line feed, in
front of which there may be a carriage return. -/
structure IsLine (before line after : List Char) : Prop where
  start : before = [] ∨ ∃ rest, before = rest ++ ['\n']
  oneLine : '\n' ∉ line
  stop : after = [] ∨ ∃ rest, after = '\n' :: rest ∨ after = '\r' :: '\n' :: rest

variable {before after : List Char}

/-- Other lines are the same for whatever is written in the place of the line. -/
theorem IsLine.exists_physicalLines (h : IsLine before line after) :
    ∃ as bs ending, (∀ c ∈ ending, isBlank c) ∧ physicalLines before = as ++ [[]] ∧
      physicalLines after = ending :: bs ∧
      ∀ l, '\n' ∉ l → physicalLines (before ++ l ++ after) = as ++ (l ++ ending) :: bs := by
  obtain ⟨bs, ending, hblank, hafter⟩ : ∃ bs ending, (∀ c ∈ ending, isBlank c) ∧
      physicalLines after = ending :: bs := by
    rcases h.stop with rfl | ⟨rest, rfl | rfl⟩
    · exact ⟨[], [], by simp, rfl⟩
    · exact ⟨physicalLines rest, [], by simp, rfl⟩
    · exact ⟨physicalLines rest, ['\r'], List.forall_mem_singleton.2 rfl,
        physicalLines_append_newline ['\r'] rest⟩
  have hline : ∀ l, '\n' ∉ l → physicalLines (l ++ after) = (l ++ ending) :: bs := fun l hl =>
    physicalLines_append_of_not_mem hl hafter
  rcases h.start with rfl | ⟨rest, rfl⟩
  · exact ⟨[], bs, ending, hblank, rfl, hafter, hline⟩
  · refine ⟨physicalLines rest, bs, ending, hblank, physicalLines_append_newline rest [], hafter,
      fun l hl => ?_⟩
    rw [List.append_assoc, List.append_assoc, List.singleton_append,
      physicalLines_append_newline, hline l hl]

/-- The line that is empty because the text goes on behind it is of no account. -/
theorem outcome_append_nil (as : List (List Char)) :
    (readFrom n opened (as ++ [[]])).outcome = (readFrom n opened as).outcome := by
  rw [readFrom_append, Reading.andThen]
  split
  · rfl
  · rename_i houtcome
    exact (outcome_of_none rfl []).trans houtcome.symm

/-- A comment may be put behind a line just if the line is no marker, or is not come to because of a
fault before it, or closes a block comment behind which there is nothing but blanks and comments. -/
theorem readLines_comment_iff (h : IsLine before line after) (hcomment : '\n' ∉ comment) :
    readLines (String.ofList (before ++ (line ++ " # ".toList ++ comment) ++ after)) =
        readLines (String.ofList (before ++ line ++ after)) ↔
      marker? line = none ∨ (∃ e, readLines (String.ofList before) = .error e) ∨
        marker? line = some .closing ∧
          (∃ k, (reading (String.ofList before)).outcome = .ok (some k)) ∧
          ∀ raw ∈ physicalLines after, stripComment (trim raw) = [] := by
  obtain ⟨as, bs, ending, hblank, hbefore, hafter, hlines⟩ := h.exists_physicalLines
  have hline : '\n' ∉ line ++ " # ".toList ++ comment := by
    simp [h.oneLine, hcomment]
  -- The line feed behind `before` begins a line that is not read there.
  have hopened : (reading (String.ofList before)).outcome = (readFrom 1 none as).outcome := by
    rw [reading, String.toList_ofList, hbefore, outcome_append_nil]
  have hfault : (∃ e, readLines (String.ofList before) = .error e) ↔
      ∃ e, (readFrom 1 none as).outcome = .error e := by
    rw [readLines_ofList, Reading.exists_result_error, hbefore, outcome_append_nil]
  have hrest : (∀ raw ∈ physicalLines after, stripComment (trim raw) = []) ↔
      ∀ raw ∈ bs, stripComment (trim raw) = [] := by
    have hending : trim ending = [] := trim_append_of_blank hblank []
    rw [hafter, List.forall_mem_cons, hending]
    exact and_iff_right rfl
  have hstrip : stripComment (trim (line ++ " # ".toList ++ comment ++ ending)) =
      stripComment (trim (line ++ ending)) := by
    have htext : line ++ " # ".toList ++ comment ++ ending =
        line ++ ' ' :: '#' :: (' ' :: (comment ++ ending)) := by simp
    rw [htext, stripComment_trim_comment, trim_append_of_blank hblank]
  have hplain : marker? (line ++ " # ".toList ++ comment ++ ending) = none :=
    marker?_of_comment (by simp)
  rw [readLines_ofList, readLines_ofList, hlines _ hline, hlines _ h.oneLine,
    result_replace_iff as hplain hstrip, marker?_append_of_blank hblank, hopened, hfault, hrest]

/-- The comment behind the end of a block comment lets the block comment go on. -/
theorem readLines_comment_iff_end :
    readLines "A\n---\nB\n!-- # end\nC" ≠ readLines "A\n---\nB\n!--\nC" := by
  have hline : IsLine "A\n---\nB\n".toList "!--".toList "\nC".toList :=
    ⟨.inr ⟨"A\n---\nB".toList, rfl⟩, by decide, .inr ⟨['C'], .inl rfl⟩⟩
  have hcomment : '\n' ∉ "end".toList := by decide
  intro h
  rcases (readLines_comment_iff hline hcomment).1 h with hmarker | ⟨e, hfault⟩ | ⟨-, -, hnothing⟩
  · cases hmarker
  · cases hfault
  · exact absurd (hnothing ['C'] (by decide)) (by decide)

end RigScript.Script
