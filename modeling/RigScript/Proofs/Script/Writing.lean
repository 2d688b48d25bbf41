import RigScript.Proofs.Script.Selection

/-! ## Texts that are written as lines

A text is written as a line with a backslash before each of its `#`, and is read back as it was:
what stands between two `#` holds backslashes as it likes, since a backslash counts only where a
`#` follows it. A script of such lines gives back all of its texts just if each of them can be the
text of a line. -/

namespace RigScript.Script

open Text

/-- A text with a backslash before every `#`. -/
def escape (s : List Char) : List Char :=
  s.flatMap fun c => if c = '#' then ['\\', '#'] else [c]

/-- A script with one line for each text. -/
def write (texts : List String) : String :=
  "\n".intercalate (texts.map fun t => String.ofList (escape t.toList))

/-- Texts as lines in a row, of which the first has the given number. -/
def numbered (n : Nat) (texts : List String) : List Line :=
  (texts.zipIdx n).map fun (t, i) => ⟨i, t⟩

/-- A text that a line can have: it is there, it stands on one line, no blank is at its ends, and it
is no marker of a block comment. -/
structure FitsLine (t : String) : Prop where
  nonempty : t ≠ ""
  oneLine : '\n' ∉ t.toList
  trimmed : trim t.toList = t.toList
  notOpening : t ≠ "---"
  notClosing : t ≠ "!--"

variable {s : List Char} {raws : List (List Char)} {t : String} {texts : List String} {n : Nat}

/-! ### One text -/

theorem escape_cons (c : Char) (s : List Char) :
    escape (c :: s) = (if c = '#' then ['\\', '#'] else [c]) ++ escape s := rfl

theorem escape_append (s r : List Char) : escape (s ++ r) = escape s ++ escape r :=
  List.flatMap_append

/-- A `#` has a backslash before it, so no line begins with one. -/
theorem head?_escape_ne (s : List Char) : (escape s).head? ≠ some '#' := by
  cases s with
  | nil => simp [escape]
  | cons c s =>
      rw [escape_cons]
      split
      · simp
      · rename_i hc
        simpa using hc

/-- The line is read as the text, whatever backslashes it holds. -/
theorem beforeComment_escape (s : List Char) : beforeComment (escape s) = s := by
  induction s with
  | nil => rfl
  | cons c s ih =>
      rw [escape_cons]
      split
      · rename_i hc
        subst hc
        exact congrArg ('#' :: ·) ih
      · rename_i hc
        rw [List.singleton_append, beforeComment_cons hc fun _ => head?_escape_ne s, ih]

theorem mem_escape_iff {c : Char} (hc : c ≠ '\\') : c ∈ escape s ↔ c ∈ s := by
  have hpiece : ∀ d, c ∈ (if d = '#' then ['\\', '#'] else [d]) ↔ c = d := by
    intro d
    split
    · rename_i hd
      simp [hd, hc]
    · simp
  simp [escape, List.mem_flatMap, hpiece]

theorem trimmed_escape (h : Trimmed s) : Trimmed (escape s) := by
  constructor
  · intro c hc
    cases s with
    | nil => cases hc
    | cons d s =>
        have hd := h.1 d rfl
        rw [escape_cons] at hc
        split at hc <;> cases hc
        · decide
        · exact hd
  · intro c hc
    rcases List.eq_nil_or_concat s with rfl | ⟨s, d, rfl⟩
    · cases hc
    · -- The last character is the same, for a backslash comes before its `#`.
      have hlast : (escape [d]).getLast? = some d := by
        by_cases hd : d = '#' <;> simp [escape, hd]
      rw [List.concat_eq_append, escape_append, List.getLast?_append, hlast] at hc
      exact h.2 c (by simpa using hc)

theorem head?_beforeComment (h : ∀ c ∈ s.head?, isBlank c = false) :
    ∀ c ∈ (beforeComment s).head?, isBlank c = false := by
  fun_cases beforeComment s with
  | case1 | case2 => simp
  | case3 s =>
      rintro _ ⟨⟩
      decide
  | case4 c s _ _ => exact h

/-! ### A script of texts -/

theorem physicalLines_of_not_mem {l : List Char} (h : '\n' ∉ l) : physicalLines l = [l] := by
  have hline := physicalLines_append_of_not_mem (s := []) h rfl
  rwa [List.append_nil] at hline

theorem physicalLines_intercalate {ls : List (List Char)} (hne : ls ≠ [])
    (h : ∀ l ∈ ls, '\n' ∉ l) : physicalLines (['\n'].intercalate ls) = ls := by
  induction ls with
  | nil => exact absurd rfl hne
  | cons l ls ih =>
      obtain ⟨hl, hls⟩ := List.forall_mem_cons.1 h
      cases ls with
      | nil => rw [List.intercalate_singleton, physicalLines_of_not_mem hl]
      | cons r ls =>
          rw [List.intercalate_cons_cons, List.append_assoc, List.singleton_append,
            physicalLines_append_newline, physicalLines_of_not_mem hl,
            ih (List.cons_ne_nil _ _) hls, List.singleton_append]

theorem physicalLines_write (hne : texts ≠ []) (h : ∀ t ∈ texts, '\n' ∉ t.toList) :
    physicalLines (write texts).toList = texts.map fun t => escape t.toList := by
  have hlines : (write texts).toList = ['\n'].intercalate (texts.map fun t => escape t.toList) := by
    simp [write, Function.comp_def]
  rw [hlines]
  refine physicalLines_intercalate (by simpa using hne) fun l hl => ?_
  obtain ⟨t, ht, rfl⟩ := List.mem_map.1 hl
  rw [mem_escape_iff (by decide)]
  exact h t ht

namespace FitsLine

variable (h : FitsLine t)
include h

theorem trim_escape : trim (escape t.toList) = escape t.toList :=
  trim_of_trimmed (trimmed_escape (trim_eq_self_iff.1 h.trimmed))

theorem stripComment_escape : stripComment (trim (escape t.toList)) = t.toList := by
  rw [h.trim_escape, stripComment, beforeComment_escape]
  exact trimEnd_of_not_blank (trim_eq_self_iff.1 h.trimmed).2

/-- A marker is the line of no other text. -/
theorem marker?_escape : marker? (escape t.toList) = none := by
  have htext : ∀ marker, escape t.toList = marker → t.toList = beforeComment marker := by
    rintro _ rfl
    exact (beforeComment_escape _).symm
  have hopening : escape t.toList ≠ commentStart := fun heq =>
    h.notOpening (String.toList_inj.1 (htext _ heq))
  have hclosing : escape t.toList ≠ commentEnd := fun heq =>
    h.notClosing (String.toList_inj.1 (htext _ heq))
  rw [marker?, h.trim_escape, if_neg hopening, if_neg hclosing]

end FitsLine

theorem numbered_cons (n : Nat) (t : String) (texts : List String) :
    numbered n (t :: texts) = ⟨n, t⟩ :: numbered (n + 1) texts := rfl

theorem mem_numbered {i : Nat} (h : texts[i]? = some t) : ⟨n + i, t⟩ ∈ numbered n texts := by
  refine List.mem_map.2 ⟨(t, n + i), List.mem_iff_getElem?.2 ⟨i, ?_⟩, rfl⟩
  rw [List.getElem?_zipIdx, h]
  rfl

theorem readFrom_escape (h : ∀ t ∈ texts, FitsLine t) (n : Nat) :
    readFrom n none (texts.map fun t => escape t.toList) = ⟨numbered n texts, .ok none⟩ := by
  induction texts generalizing n with
  | nil => rfl
  | cons t texts ih =>
      obtain ⟨ht, htexts⟩ := List.forall_mem_cons.1 h
      have hne : t.toList ≠ [] := by simpa using ht.nonempty
      rw [List.map_cons, readFrom_of_none ht.marker?_escape, ht.stripComment_escape,
        if_neg (by simpa using hne), ih htexts, String.ofList_toList, numbered_cons]
      rfl

/-- A text that is kept of its own line fits a line. -/
theorem fitsLine_of_kept {i : Nat} (hline : '\n' ∉ t.toList)
    (hraw : raws[i]? = some (escape t.toList)) (h : Kept raws ⟨i + 1, t⟩) : FitsLine t := by
  generalize hkept : (⟨i + 1, t⟩ : Line) = l at h
  obtain ⟨rfl, hmarker, heven, hcomment, htext, hne⟩ := h
  rename_i before after raw text
  obtain ⟨hnumber, ht⟩ := Line.mk.inj hkept
  obtain rfl : i = before.length := Nat.succ.inj hnumber
  obtain rfl : raw = escape t.toList := by simpa using hraw
  have hhead : ∀ c ∈ text.head?, isBlank c = false := by
    rw [← beforeComment_eq_iff.2 htext]
    exact head?_beforeComment (trimmed_trim _).1
  refine ⟨?_, hline, ?_, ?_, ?_⟩
  · rw [ht]
    simpa using hne
  · rw [ht, String.toList_ofList]
    exact trim_of_trimmed (trimmed_trimEnd hhead)
  · rintro rfl
    cases hmarker
  · rintro rfl
    cases hmarker

/-- A script of texts gives back just these, line by line, if each of them fits a line. -/
theorem readLines_write_iff (texts : List String) :
    readLines (write texts) = .ok (numbered 1 texts) ↔ ∀ t ∈ texts, FitsLine t := by
  rcases eq_or_ne texts [] with rfl | hne
  · exact iff_of_true rfl (by simp)
  constructor
  · intro h
    have hlines : ∀ t ∈ texts, '\n' ∉ t.toList := by
      intro t ht
      obtain ⟨i, hi⟩ := List.mem_iff_getElem?.1 ht
      exact newline_not_mem_of_readLines h _ (mem_numbered hi)
    intro t ht
    obtain ⟨i, hi⟩ := List.mem_iff_getElem?.1 ht
    rw [readLines_eq, physicalLines_write hne hlines] at h
    have hverdict := verdict (texts.map fun t => escape t.toList)
    generalize readFrom 1 none (texts.map fun t => escape t.toList) = r at h hverdict
    cases hverdict with
    | stopped _ => cases h
    | finished _ _ _ hkept =>
        obtain rfl := Except.ok.inj h
        have hmem := (hkept ⟨1 + i, t⟩).1 (mem_numbered hi)
        rw [Nat.add_comm] at hmem
        exact fitsLine_of_kept (hlines t ht) (by simp [hi]) hmem
  · intro h
    rw [readLines_eq, physicalLines_write hne fun t ht => (h t ht).oneLine, readFrom_escape h]
    rfl

/-- A backslash before a `#` is a character of the text like others. -/
example : readLines (write ["# a", "b \\# c\\"]) = .ok [⟨1, "# a"⟩, ⟨2, "b \\# c\\"⟩] := by
  decide +kernel

end RigScript.Script
