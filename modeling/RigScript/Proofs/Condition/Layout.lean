import Mathlib.Data.List.Chain
import RigScript.Condition.Token
import RigScript.Proofs.Text.Readers

/-! ## Conditions as texts

A row of tokens can be laid out as a text in many ways: most tokens have more than one spelling, and
blanks may stand around each. This file shows that a layout is read back as its tokens, that a text
from which tokens are read is a layout of them, and that of any other text the first word that
spells no token is named. -/

namespace RigScript.Condition

open Text Token

/-! ### Layouts -/

/-- A way to write a token. -/
inductive Spelling where
  | trueWord | falseWord | andWord | orWord | notWord
  | andSign | orSign | notSign | opening | closing
  deriving DecidableEq, Repr

namespace Spelling

def token : Spelling → Token
  | .trueWord => .value true
  | .falseWord => .value false
  | .andWord | .andSign => .and
  | .orWord | .orSign => .or
  | .notWord | .notSign => .not
  | .opening => .opening
  | .closing => .closing

def text : Spelling → List Char
  | .trueWord => ['T', 'R', 'U', 'E']
  | .falseWord => ['F', 'A', 'L', 'S', 'E']
  | .andWord => ['A', 'N', 'D']
  | .orWord => ['O', 'R']
  | .notWord => ['N', 'O', 'T']
  | .andSign => ['&', '&']
  | .orSign => ['|', '|']
  | .notSign => ['!']
  | .opening => ['(']
  | .closing => [')']

/-- The token is written with letters. -/
def isWord (p : Spelling) : Bool := p.text.all Char.isAlpha

end Spelling

/-- Tokens as they stand in a text: spellings, each with the blanks in front of it, and the blanks
behind the last. Two words do not touch. -/
structure Layout where
  items : List (List Char × Spelling)
  ending : List Char
  blank_items : ∀ i ∈ items, ∀ c ∈ i.1, isBlank c
  blank_ending : ∀ c ∈ ending, isBlank c
  apart : items.IsChain fun i j => i.2.isWord → j.2.isWord → j.1 ≠ []

namespace Layout

def text (l : Layout) : List Char := l.items.flatMap (fun i => i.1 ++ i.2.text) ++ l.ending

def tokens (l : Layout) : List Token := l.items.map (·.2.token)

end Layout

/-- No word goes on from the one text into the other. -/
def Parted (s r : List Char) : Prop :=
  ∀ c ∈ s.getLast?, isWordChar c → ∀ d ∈ r.head?, isWordChar d = false

/-- A word of a text that consists of `before`, the word and `after`: an `&` or `|` that is not the
first of two, or a run of word characters that goes on to neither side. -/
inductive IsWordAt (before : List Char) : List Char → List Char → Prop where
  | single {c : Char} {after : List Char} (hc : c = '&' ∨ c = '|') (hafter : after.head? ≠ some c) :
      IsWordAt before [c] after
  | run {w after : List Char} (hne : w ≠ []) (hw : ∀ c ∈ w, isWordChar c)
      (hbefore : Parted before w) (hafter : Parted w after) : IsWordAt before w after

/-- The first word of a text that spells no token: all that stands before it is a layout. -/
inductive FirstUnknown : List Char → List Char → Prop where
  | behind (l : Layout) {w after : List Char} (hword : IsWordAt l.text w after)
      (hunknown : ∀ p : Spelling, p.text ≠ w) : FirstUnknown (l.text ++ (w ++ after)) w

/-! ### Where words end -/

section Parted

variable {a b c s r w : List Char}

theorem parted_of_blank_left (hs : ∀ c ∈ s, isBlank c) : Parted s r := by
  intro c hc hword
  simp [isWordChar, hs c (List.mem_of_mem_getLast? hc)] at hword

theorem parted_iff_of_run (hne : w ≠ []) (hw : ∀ c ∈ w, isWordChar c) :
    Parted w r ↔ ∀ c ∈ r.head?, isWordChar c = false := by
  refine ⟨fun h => ?_, fun h _ _ _ => h⟩
  obtain ⟨c, hc⟩ := Option.isSome_iff_exists.1 (List.getLast?_isSome.2 hne)
  exact h c hc (hw c (List.mem_of_mem_getLast? (Option.mem_def.2 hc)))

theorem parted_append_left (hb : b ≠ []) : Parted (a ++ b) c ↔ Parted b c := by
  rw [Parted, Parted, List.getLast?_append_of_ne_nil a hb]

theorem parted_append_right (hb : b ≠ []) : Parted a (b ++ c) ↔ Parted a b := by
  rw [Parted, Parted, List.head?_append_of_ne_nil b hb]

/-- Of three texts no two neighbours share a word, whichever two are put together first. -/
theorem parted_assoc : (Parted a b ∧ Parted (a ++ b) c) ↔ (Parted a (b ++ c) ∧ Parted b c) := by
  by_cases hb : b = []
  · subst hb
    simp [Parted]
  · rw [parted_append_left hb, parted_append_right hb]

theorem IsWordAt.ne_nil (h : IsWordAt s w r) : w ≠ [] := by
  cases h with
  | single => exact List.cons_ne_nil _ _
  | run hne => exact hne

theorem IsWordAt.parted (h : IsWordAt s w r) : Parted s w := by
  cases h with
  | single hc =>
      rintro _ - - _ ⟨⟩
      rcases hc with rfl | rfl <;> decide
  | run _ _ hbefore => exact hbefore

/-- What stands farther before a word makes no difference to it. -/
theorem IsWordAt.congr (h : IsWordAt s w r) (hparted : Parted a w) : IsWordAt a w r := by
  cases h with
  | single hc hafter => exact .single hc hafter
  | run hne hw _ hafter => exact .run hne hw hparted hafter

end Parted

/-! ### Spellings -/

namespace Spelling

variable {p : Spelling}

theorem text_ne_nil (p : Spelling) : p.text ≠ [] := by cases p <;> exact List.cons_ne_nil _ _

theorem isWordChar_of_mem_text (p : Spelling) : ∀ c ∈ p.text, isWordChar c = p.isWord := by
  have hall : p.text.all (isWordChar · == p.isWord) = true := by cases p <;> rfl
  simpa using hall

theorem not_isBlank_of_mem_text (p : Spelling) : ∀ c ∈ p.text, isBlank c = false := by
  have hall : p.text.all (!isBlank ·) = true := by cases p <;> rfl
  simpa using hall

theorem parted_text_iff {r : List Char} :
    Parted p.text r ↔ (p.isWord → ∀ c ∈ r.head?, isWordChar c = false) := by
  cases hp : p.isWord with
  | true =>
      have hw : ∀ c ∈ p.text, isWordChar c := fun c hc => hp ▸ p.isWordChar_of_mem_text c hc
      simpa using parted_iff_of_run p.text_ne_nil hw
  | false =>
      have hsign : Parted p.text r := by
        intro c hc hword
        rw [p.isWordChar_of_mem_text c (List.mem_of_mem_getLast? hc), hp] at hword
        cases hword
      simpa using hsign

theorem parted_text_text_iff {q : Spelling} (r : List Char) :
    Parted p.text (q.text ++ r) ↔ (p.isWord → ¬ q.isWord) := by
  rw [parted_append_right q.text_ne_nil, parted_text_iff]
  obtain ⟨c, hc⟩ := Option.isSome_iff_exists.1 (List.isSome_head?.2 q.text_ne_nil)
  have hmem : c ∈ q.text := List.mem_of_mem_head? (Option.mem_def.2 hc)
  simp [hc, q.isWordChar_of_mem_text c hmem]

end Spelling

/-! ### Layouts item by item -/

namespace Layout

variable {l : Layout} {p : Spelling} {space : List Char}

/-- A word does not go on into a layout exactly if the layout does not begin with one. -/
theorem parted_text_iff :
    Parted p.text l.text ↔ ∀ i ∈ l.items.head?, p.isWord → i.2.isWord → i.1 ≠ [] := by
  obtain ⟨items, ending, hitems, hending, -⟩ := l
  cases items with
  | nil =>
      have hblank : ∀ c ∈ ending.head?, isWordChar c = false := by
        intro c hc
        simp [isWordChar, hending c (List.mem_of_mem_head? hc)]
      simpa [text, Spelling.parted_text_iff] using fun _ => hblank
  | cons i items =>
      obtain ⟨space, q⟩ := i
      cases space with
      | nil => simp [text, Spelling.parted_text_text_iff]
      | cons c space =>
          have hblank : isBlank c := hitems _ List.mem_cons_self c List.mem_cons_self
          simp [text, Spelling.parted_text_iff, isWordChar, hblank]

/-- Nothing but blanks. -/
def blanks (space : List Char) (hspace : ∀ c ∈ space, isBlank c) : Layout where
  items := []
  ending := space
  blank_items := by simp
  blank_ending := hspace
  apart := .nil

/-- One more token in front. -/
def cons (space : List Char) (p : Spelling) (l : Layout) (hspace : ∀ c ∈ space, isBlank c)
    (hparted : Parted p.text l.text) : Layout where
  items := (space, p) :: l.items
  ending := l.ending
  blank_items := List.forall_mem_cons.2 ⟨hspace, l.blank_items⟩
  blank_ending := l.blank_ending
  apart := List.isChain_cons.2 ⟨parted_text_iff.1 hparted, l.apart⟩

@[simp] theorem text_blanks (hspace : ∀ c ∈ space, isBlank c) :
    (blanks space hspace).text = space := rfl

@[simp] theorem tokens_blanks (hspace : ∀ c ∈ space, isBlank c) :
    (blanks space hspace).tokens = [] := rfl

@[simp] theorem text_cons (hspace : ∀ c ∈ space, isBlank c) (hparted : Parted p.text l.text) :
    (cons space p l hspace hparted).text = space ++ (p.text ++ l.text) := by
  simp [cons, text]

@[simp] theorem tokens_cons (hspace : ∀ c ∈ space, isBlank c) (hparted : Parted p.text l.text) :
    (cons space p l hspace hparted).tokens = p.token :: l.tokens := rfl

/-- A layout is made of blanks by putting tokens in front. -/
theorem induction {motive : Layout → Prop}
    (blanks : ∀ space hspace, motive (blanks space hspace))
    (cons : ∀ space p l hspace hparted, motive l → motive (cons space p l hspace hparted))
    (l : Layout) : motive l := by
  obtain ⟨items, ending, hitems, hending, hapart⟩ := l
  induction items with
  | nil => exact blanks ending hending
  | cons i items ih =>
      obtain ⟨hspace, hitems⟩ := List.forall_mem_cons.1 hitems
      obtain ⟨hhead, hapart⟩ := List.isChain_cons.1 hapart
      exact cons i.1 i.2 ⟨items, ending, hitems, hending, hapart⟩ hspace
        (parted_text_iff.2 hhead) (ih hitems hapart)

end Layout

/-! ### Scanning -/

namespace Token

variable {space s r w : List Char} {t : Token}

theorem scan_nil : scan [] = .ok [] := by rw [scan]

theorem scan_append_of_blank (hspace : ∀ c ∈ space, isBlank c) (s : List Char) :
    scan (space ++ s) = scan s := by
  induction space with
  | nil => rfl
  | cons c space ih =>
      obtain ⟨hc, hspace⟩ := List.forall_mem_cons.1 hspace
      rw [List.cons_append, scan, if_pos hc, ih hspace]

theorem scan_of_mark {c : Char} (hc : isBlank c = false) (hmark : mark? (c :: s) = some (t, r)) :
    scan (c :: s) = (scan r).map (t :: ·) := by
  rw [scan, hc, if_neg Bool.false_ne_true]
  split
  · rename_i hread
    cases hmark.symm.trans hread
    rfl
  · rename_i hread
    cases hmark.symm.trans hread

theorem scan_of_word {c : Char} (hc : isBlank c = false) (hmark : mark? (c :: s) = none)
    (hword : ofWord? (word (c :: s)) = some t) :
    scan (c :: s) = (scan (afterWord (c :: s))).map (t :: ·) := by
  rw [scan, hc, if_neg Bool.false_ne_true]
  split
  · rename_i hread
    cases hmark.symm.trans hread
  · rw [hword]

theorem scan_of_unknown {c : Char} (hc : isBlank c = false) (hmark : mark? (c :: s) = none)
    (hword : ofWord? (word (c :: s)) = none) :
    scan (c :: s) = .error (.unexpectedToken (String.ofList (word (c :: s)))) := by
  rw [scan, hc, if_neg Bool.false_ne_true]
  split
  · rename_i hread
    cases hmark.symm.trans hread
  · rw [hword]

/-- The signs are the spellings that are no words. -/
theorem mark?_eq_some_iff :
    mark? s = some (t, r) ↔ ∃ p : Spelling, p.isWord = false ∧ p.token = t ∧ s = p.text ++ r := by
  constructor
  · intro h
    unfold mark? at h
    split at h <;> cases h
    · exact ⟨.opening, rfl, rfl, rfl⟩
    · exact ⟨.closing, rfl, rfl, rfl⟩
    · exact ⟨.notSign, rfl, rfl, rfl⟩
    · exact ⟨.andSign, rfl, rfl, rfl⟩
    · exact ⟨.orSign, rfl, rfl, rfl⟩
  · rintro ⟨p, hp, rfl, rfl⟩
    cases p <;> first | rfl | cases hp

/-- A sign is none on its own if two of it make one. -/
theorem mark?_cons_eq_none_iff {c : Char} (hc : isMark c) :
    mark? (c :: r) = none ↔ (c = '&' ∨ c = '|') ∧ r.head? ≠ some c := by
  constructor
  · intro h
    have hsingle : c = '&' ∨ c = '|' := by
      simp only [isMark, Bool.or_eq_true, beq_iff_eq] at hc
      rcases hc with (((rfl | rfl) | rfl) | hand) | hor
      · cases h
      · cases h
      · cases h
      · exact .inl hand
      · exact .inr hor
    refine ⟨hsingle, fun hhead => ?_⟩
    obtain ⟨m, rfl⟩ := List.head?_eq_some_iff.1 hhead
    rcases hsingle with rfl | rfl <;> cases h
  · rintro ⟨hsingle, hhead⟩
    unfold mark?
    split <;> rename_i htext <;> first | rfl | cases htext
    · rcases hsingle with h | h <;> cases h
    · rcases hsingle with h | h <;> cases h
    · rcases hsingle with h | h <;> cases h
    · exact absurd rfl hhead
    · exact absurd rfl hhead

theorem ofWord?_eq_some_iff :
    ofWord? w = some t ↔ ∃ p : Spelling, p.isWord ∧ p.token = t ∧ p.text = w := by
  constructor
  · intro h
    unfold ofWord? at h
    split_ifs at h with htrue hfalse hand hor hnot <;> cases h
    · exact ⟨.trueWord, rfl, rfl, htrue.symm⟩
    · exact ⟨.falseWord, rfl, rfl, hfalse.symm⟩
    · exact ⟨.andWord, rfl, rfl, hand.symm⟩
    · exact ⟨.orWord, rfl, rfl, hor.symm⟩
    · exact ⟨.notWord, rfl, rfl, hnot.symm⟩
  · rintro ⟨p, hp, rfl, rfl⟩
    cases p <;> first | rfl | cases hp

theorem word_append_of_run (hne : w ≠ []) (hw : ∀ c ∈ w, isWordChar c) (hparted : Parted w r) :
    word (w ++ r) = w ∧ afterWord (w ++ r) = r := by
  have hr := (parted_iff_of_run hne hw).1 hparted
  cases w with
  | nil => exact absurd rfl hne
  | cons c w =>
      obtain ⟨hc, hw⟩ := List.forall_mem_cons.1 hw
      obtain ⟨htake, hdrop⟩ := takeWhile_append_of_run hw hr
      rw [List.cons_append, word, afterWord, if_pos hc, if_pos hc, htake, hdrop]
      exact ⟨rfl, rfl⟩

theorem not_isBlank_of_isWordChar {c : Char} (h : isWordChar c) : isBlank c = false := by
  simp only [isWordChar, Bool.and_eq_true, Bool.not_eq_true'] at h
  exact h.1

/-- No sign stands at the front of a run of word characters. -/
theorem mark?_eq_none_of_run (hne : w ≠ []) (hw : ∀ c ∈ w, isWordChar c) (r : List Char) :
    mark? (w ++ r) = none := by
  rw [Option.eq_none_iff_forall_ne_some]
  rintro ⟨t, rest⟩ hmark
  obtain ⟨p, hp, -, htext⟩ := mark?_eq_some_iff.1 hmark
  cases w with
  | nil => exact hne rfl
  | cons c w =>
      obtain ⟨d, text, hd⟩ := List.exists_cons_of_ne_nil p.text_ne_nil
      rw [hd] at htext
      obtain ⟨rfl, -⟩ := List.cons.inj htext
      have hsign := p.isWordChar_of_mem_text c (hd ▸ List.mem_cons_self)
      rw [hw c List.mem_cons_self, hp] at hsign
      cases hsign

theorem scan_text_append {p : Spelling} (hparted : Parted p.text r) :
    scan (p.text ++ r) = (scan r).map (p.token :: ·) := by
  obtain ⟨c, m, htext⟩ := List.exists_cons_of_ne_nil p.text_ne_nil
  have hc : isBlank c = false := p.not_isBlank_of_mem_text c (htext ▸ List.mem_cons_self)
  cases hp : p.isWord with
  | true =>
      have hw : ∀ c ∈ p.text, isWordChar c := fun c hc => hp ▸ p.isWordChar_of_mem_text c hc
      obtain ⟨hword, hafter⟩ := word_append_of_run p.text_ne_nil hw hparted
      have hmark := mark?_eq_none_of_run p.text_ne_nil hw r
      have hread := ofWord?_eq_some_iff.2 ⟨p, hp, rfl, rfl⟩
      rw [← hword] at hread
      rw [htext, List.cons_append] at hafter hmark hread ⊢
      rw [scan_of_word hc hmark hread, hafter]
  | false =>
      have hmark : mark? (p.text ++ r) = some (p.token, r) :=
        mark?_eq_some_iff.2 ⟨p, hp, rfl, rfl⟩
      rw [htext, List.cons_append] at hmark ⊢
      exact scan_of_mark hc hmark

/-- The tokens of a layout are read, whatever comes next. -/
theorem scan_layout_append (l : Layout) (hparted : Parted l.text r) :
    scan (l.text ++ r) = (scan r).map (l.tokens ++ ·) := by
  induction l using Layout.induction with
  | blanks space hspace =>
      rw [Layout.text_blanks, scan_append_of_blank hspace, Layout.tokens_blanks]
      cases scan r <;> rfl
  | cons space p l hspace hnext ih =>
      -- If `l` is empty, it is the token in front that must not go on into the rest.
      rw [Layout.text_cons, parted_append_left (by simp [p.text_ne_nil])] at hparted
      obtain ⟨hp, hl⟩ := parted_assoc.1 ⟨hnext, hparted⟩
      rw [Layout.text_cons, List.append_assoc, List.append_assoc, scan_append_of_blank hspace,
        scan_text_append hp, ih hl, Layout.tokens_cons]
      cases scan r <;> rfl

theorem scan_of_isWordAt (hword : IsWordAt s w r) (hunknown : ∀ p : Spelling, p.text ≠ w) :
    scan (w ++ r) = .error (.unexpectedToken (String.ofList w)) := by
  have hnone : ofWord? w = none := by
    rw [Option.eq_none_iff_forall_ne_some]
    intro t ht
    obtain ⟨p, -, -, hp⟩ := ofWord?_eq_some_iff.1 ht
    exact hunknown p hp
  cases hword with
  | run hne hw _ hafter =>
      obtain ⟨hword, -⟩ := word_append_of_run hne hw hafter
      have hmark := mark?_eq_none_of_run hne hw r
      obtain ⟨c, m, rfl⟩ := List.exists_cons_of_ne_nil hne
      have hc := not_isBlank_of_isWordChar (hw c List.mem_cons_self)
      rw [List.cons_append] at hword hmark ⊢
      rw [scan_of_unknown hc hmark (hword ▸ hnone), hword]
  | @single c _ hc hafter =>
      have hsign : isBlank c = false ∧ isMark c ∧ isWordChar c = false := by
        rcases hc with rfl | rfl <;> decide
      have hmark : mark? (c :: r) = none := (mark?_cons_eq_none_iff hsign.2.1).2 ⟨hc, hafter⟩
      have hword : word (c :: r) = [c] := by simp [word, hsign.2.2]
      rw [List.singleton_append, scan_of_unknown hsign.1 hmark (hword ▸ hnone), hword]

end Token

/-! ### Every text -/

/-- How a text begins: with blanks and a token or an unknown word, if there is anything else. -/
inductive Front : List Char → Prop where
  | blank {s : List Char} (hs : ∀ c ∈ s, isBlank c) : Front s
  | spelling {space r : List Char} {p : Spelling} (hspace : ∀ c ∈ space, isBlank c)
      (hparted : Parted p.text r) : Front (space ++ (p.text ++ r))
  | unknown {space w r : List Char} (hspace : ∀ c ∈ space, isBlank c) (hword : IsWordAt space w r)
      (hunknown : ∀ p : Spelling, p.text ≠ w) : Front (space ++ (w ++ r))

section Front

variable {space : List Char} {c : Char}

/-- A word is taken up to its end and compared with the spellings then. -/
theorem front_of_isWordChar (hspace : ∀ c ∈ space, isBlank c) (hc : isWordChar c)
    (r : List Char) : Front (space ++ c :: r) := by
  have hrun : ∀ d ∈ c :: r.takeWhile isWordChar, isWordChar d :=
    List.forall_mem_cons.2 ⟨hc, List.all_eq_true.1 List.all_takeWhile⟩
  have hparted : Parted (c :: r.takeWhile isWordChar) (r.dropWhile isWordChar) :=
    fun _ _ _ => head?_dropWhile r
  rw [← List.takeWhile_append_dropWhile (p := isWordChar) (l := r), ← List.cons_append]
  by_cases hknown : ∃ p : Spelling, p.text = c :: r.takeWhile isWordChar
  · obtain ⟨p, hp⟩ := hknown
    rw [← hp] at hparted ⊢
    exact .spelling hspace hparted
  · have hword := IsWordAt.run (List.cons_ne_nil _ _) hrun (parted_of_blank_left hspace) hparted
    exact .unknown hspace hword (not_exists.1 hknown)

theorem front_of_isMark (hspace : ∀ c ∈ space, isBlank c) (hc : isMark c) (r : List Char) :
    Front (space ++ c :: r) := by
  cases hread : mark? (c :: r) with
  | some found =>
      obtain ⟨t, rest⟩ := found
      obtain ⟨p, hp, -, htext⟩ := mark?_eq_some_iff.1 hread
      have hparted : Parted p.text rest := Spelling.parted_text_iff.2 (by simp [hp])
      rw [htext]
      exact .spelling hspace hparted
  | none =>
      obtain ⟨hsingle, hnext⟩ := (mark?_cons_eq_none_iff hc).1 hread
      have hunknown : ∀ p : Spelling, p.text ≠ [c] := by
        intro p
        rcases hsingle with rfl | rfl <;> cases p <;> decide
      exact .unknown hspace (.single hsingle hnext) hunknown

theorem front (s : List Char) : Front s := by
  obtain ⟨space, hspace, hs⟩ := exists_blanks_trimStart s
  have hhead : ∀ c ∈ (trimStart s).head?, isBlank c = false := fun _ => head?_trimStart
  rw [hs]
  generalize trimStart s = rest at hhead
  cases rest with
  | nil =>
      rw [List.append_nil]
      exact .blank hspace
  | cons c r =>
      cases hmark : isMark c with
      | true => exact front_of_isMark hspace hmark r
      | false => exact front_of_isWordChar hspace (by simp [isWordChar, hhead c rfl, hmark]) r

end Front

/-- A text is a layout or has a first word that spells no token. -/
theorem layout_or_unknown (s : List Char) :
    (∃ l : Layout, l.text = s) ∨ ∃ w, FirstUnknown s w := by
  cases front s with
  | blank hs => exact .inl ⟨.blanks s hs, rfl⟩
  | @spelling space r p hspace hparted =>
      rcases layout_or_unknown r with ⟨l, rfl⟩ | ⟨w, hunknown⟩
      · exact .inl ⟨.cons space p l hspace hparted, Layout.text_cons _ _⟩
      · refine .inr ⟨w, ?_⟩
        cases hunknown with
        | @behind l w after hword hunknown =>
            -- The word goes on to neither side, so a layout in front of it is one by itself.
            have hl : Parted l.text (w ++ after) :=
              (parted_append_right hword.ne_nil).2 hword.parted
            obtain ⟨hp, hboth⟩ := parted_assoc.2 ⟨hparted, hl⟩
            have hbefore : Parted (Layout.cons space p l hspace hp).text w := by
              rw [Layout.text_cons, parted_append_left (by simp [p.text_ne_nil])]
              exact (parted_append_right hword.ne_nil).1 hboth
            simpa using FirstUnknown.behind _ (hword.congr hbefore) hunknown
  | @unknown space w r hspace hword hunknown =>
      exact .inr ⟨w, .behind (.blanks space hspace) hword hunknown⟩
termination_by s.length
decreasing_by
  have hpos : 0 < p.text.length := List.length_pos_of_ne_nil p.text_ne_nil
  simp only [List.length_append]
  omega

namespace Token

theorem scan_of_firstUnknown {s w : List Char} (h : FirstUnknown s w) :
    scan s = .error (.unexpectedToken (String.ofList w)) := by
  cases h with
  | @behind l _ after hword hunknown =>
      have hparted : Parted l.text (w ++ after) :=
        (parted_append_right hword.ne_nil).2 hword.parted
      rw [scan_layout_append l hparted, scan_of_isWordAt hword hunknown]
      rfl

theorem scan_layout (l : Layout) : scan l.text = .ok l.tokens := by
  have hscan := scan_layout_append l (r := []) (by simp [Parted])
  rw [List.append_nil, scan_nil] at hscan
  rw [hscan]
  exact congrArg _ (List.append_nil _)

/-- Tokens are read from a text exactly if it is a layout of them. From every other text none are
read, and the first word that spells no token is named. -/
theorem scan_reads_layouts (s : List Char) :
    (∀ ts, scan s = .ok ts ↔ ∃ l : Layout, l.text = s ∧ l.tokens = ts) ∧
      ∀ e, scan s = .error e ↔
        ∃ w, FirstUnknown s w ∧ e = .unexpectedToken (String.ofList w) := by
  refine ⟨fun ts => ⟨fun h => ?_, ?_⟩, fun e => ⟨fun h => ?_, ?_⟩⟩
  · rcases layout_or_unknown s with ⟨l, rfl⟩ | ⟨w, hw⟩
    · rw [scan_layout] at h
      exact ⟨l, rfl, Except.ok.inj h⟩
    · rw [scan_of_firstUnknown hw] at h
      cases h
  · rintro ⟨l, rfl, rfl⟩
    exact scan_layout l
  · rcases layout_or_unknown s with ⟨l, rfl⟩ | ⟨w, hw⟩
    · rw [scan_layout] at h
      cases h
    · rw [scan_of_firstUnknown hw] at h
      exact ⟨w, hw, (Except.error.inj h).symm⟩
  · rintro ⟨w, hw, rfl⟩
    exact scan_of_firstUnknown hw

example : scan "TRUE&&& X".toList = .error (.unexpectedToken "&") := by cbv

end Token

end RigScript.Condition
