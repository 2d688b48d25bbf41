import RigScript.Text.Blank

/-! ## Names

Plugins, macros and labels are called by *names*; the plugin and the command of a dispatch are
written with *upper names*, which know capitals only. Both are ASCII. A reader takes the longest
name at the front of a text and hands back what follows. -/

namespace RigScript.Text

def isNameStart (c : Char) : Bool :=
  ('A' ≤ c && c ≤ 'Z') || ('a' ≤ c && c ≤ 'z') || c == '_'

def isNameChar (c : Char) : Bool := isNameStart c || ('0' ≤ c && c ≤ '9')

def isUpperStart (c : Char) : Bool := 'A' ≤ c && c ≤ 'Z'

def isUpperChar (c : Char) : Bool := isUpperStart c || ('0' ≤ c && c ≤ '9') || c == '_'

def isName : List Char → Bool
  | [] => false
  | c :: r => isNameStart c && r.all isNameChar

def isUpperName : List Char → Bool
  | [] => false
  | c :: r => isUpperStart c && r.all isUpperChar

/-- The longest name at the front, and the rest. -/
def name? : List Char → Option (List Char × List Char)
  | [] => none
  | c :: r =>
    if isNameStart c then some (c :: r.takeWhile isNameChar, r.dropWhile isNameChar) else none

def upperName? : List Char → Option (List Char × List Char)
  | [] => none
  | c :: r =>
    if isUpperStart c then some (c :: r.takeWhile isUpperChar, r.dropWhile isUpperChar) else none

/-- The rest after the blanks at the front, of which there is at least one. -/
def blanks? : List Char → Option (List Char)
  | [] => none
  | c :: r => if isBlank c then some (trimStart r) else none

def word? : List Char → List Char → Option (List Char)
  | [], s => some s
  | _ :: _, [] => none
  | w :: ws, c :: r => if w = c then word? ws r else none

/-! ## What the readers keep -/

theorem word?_eq_some_iff {w s r : List Char} : word? w s = some r ↔ s = w ++ r := by
  induction w generalizing s with
  | nil => simp [word?]
  | cons a w ih =>
    cases s with
    | nil => simp [word?]
    | cons c s =>
      by_cases h : a = c
      · subst h; simp [word?, ih]
      · have h' : ¬ c = a := fun e => h e.symm
        simp [word?, h, h']

/-- Nothing is lost in reading a name. -/
theorem append_of_name? {s n r : List Char} (h : name? s = some (n, r)) : s = n ++ r := by
  cases s with
  | nil => simp [name?] at h
  | cons c s =>
    simp only [name?] at h
    split at h
    · simp only [Option.some.injEq, Prod.mk.injEq] at h
      obtain ⟨rfl, rfl⟩ := h
      simp
    · simp at h

theorem append_of_upperName? {s n r : List Char} (h : upperName? s = some (n, r)) :
    s = n ++ r := by
  cases s with
  | nil => simp [upperName?] at h
  | cons c s =>
    simp only [upperName?] at h
    split at h
    · simp only [Option.some.injEq, Prod.mk.injEq] at h
      obtain ⟨rfl, rfl⟩ := h
      simp
    · simp at h

theorem isName_of_name? {s n r : List Char} (h : name? s = some (n, r)) : isName n := by
  cases s with
  | nil => simp [name?] at h
  | cons c s =>
    simp only [name?] at h
    split at h
    · rename_i hc
      simp only [Option.some.injEq, Prod.mk.injEq] at h
      obtain ⟨rfl, -⟩ := h
      simp [isName, hc, List.all_takeWhile]
    · simp at h

end RigScript.Text
