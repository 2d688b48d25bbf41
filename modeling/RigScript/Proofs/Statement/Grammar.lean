import RigScript.Proofs.Text.Numeral
import RigScript.Proofs.Text.Readers
import RigScript.Statement

/-! ## The grammar of statements

The six shapes of statements are written down here as a grammar, with all the texts that a shape
allows. A line may be cut into the parts of a shape in more than one way, and a reader tries one of
them; this file shows that a reader takes exactly the lines that can be cut at all, and that what it
makes of them does not depend on the cut. -/

namespace RigScript

/-! ### Versions -/

namespace Version

theorem pieces_of_dot_not_mem {a : List Char} (h : '.' ∉ a) : pieces a = [a] := by
  induction a with
  | nil => rfl
  | cons c a ih =>
      obtain ⟨hc, ha⟩ := not_or.1 (List.mem_cons.not.1 h)
      rw [pieces, if_neg (Ne.symm hc), ih ha]

theorem pieces_append {a : List Char} (h : '.' ∉ a) (s : List Char) :
    pieces (a ++ '.' :: s) = a :: pieces s := by
  induction a with
  | nil => rw [List.nil_append, pieces, if_pos rfl]
  | cons c a ih =>
      obtain ⟨hc, ha⟩ := not_or.1 (List.mem_cons.not.1 h)
      rw [List.cons_append, pieces, if_neg (Ne.symm hc), ih ha]

theorem pieces_ne_nil (s : List Char) : pieces s ≠ [] := by
  by_cases hdot : '.' ∈ s
  · obtain ⟨a, r, rfl, ha⟩ := List.eq_append_cons_of_mem hdot
    rw [pieces_append ha]
    exact List.cons_ne_nil _ _
  · rw [pieces_of_dot_not_mem hdot]
    exact List.cons_ne_nil _ _

/-- The first piece ends at the first point, or with the text. -/
theorem pieces_eq_cons {s p : List Char} {ps : List (List Char)} (h : pieces s = p :: ps) :
    '.' ∉ p ∧ ((ps = [] ∧ s = p) ∨ ∃ r, s = p ++ '.' :: r ∧ pieces r = ps) := by
  by_cases hdot : '.' ∈ s
  · obtain ⟨a, r, rfl, ha⟩ := List.eq_append_cons_of_mem hdot
    rw [pieces_append ha] at h
    cases h
    exact ⟨ha, .inr ⟨r, rfl, rfl⟩⟩
  · rw [pieces_of_dot_not_mem hdot] at h
    cases h
    exact ⟨hdot, .inl ⟨rfl, rfl⟩⟩

theorem pieces_eq_four_iff {s a b c d : List Char} :
    pieces s = [a, b, c, d] ↔ s = a ++ '.' :: (b ++ '.' :: (c ++ '.' :: d)) ∧
      '.' ∉ a ∧ '.' ∉ b ∧ '.' ∉ c ∧ '.' ∉ d := by
  constructor
  · intro h
    obtain ⟨ha, ⟨hnil, -⟩ | ⟨s₁, rfl, h₁⟩⟩ := pieces_eq_cons h
    · cases hnil
    obtain ⟨hb, ⟨hnil, -⟩ | ⟨s₂, rfl, h₂⟩⟩ := pieces_eq_cons h₁
    · cases hnil
    obtain ⟨hc, ⟨hnil, -⟩ | ⟨s₃, rfl, h₃⟩⟩ := pieces_eq_cons h₂
    · cases hnil
    obtain ⟨hd, ⟨-, rfl⟩ | ⟨s₄, rfl, h₄⟩⟩ := pieces_eq_cons h₃
    · exact ⟨rfl, ha, hb, hc, hd⟩
    · exact absurd h₄ (pieces_ne_nil s₄)
  · rintro ⟨rfl, ha, hb, hc, hd⟩
    rw [pieces_append ha, pieces_append hb, pieces_append hc, pieces_of_dot_not_mem hd]

/-- A version is read if each of its components is. -/
theorem components_eq_some_iff {read : List Char → Option UInt32} {a b c d : List Char}
    {v : Version} :
    (do return ⟨← read a, ← read b, ← read c, ← read d⟩ : Option Version) = some v ↔
      read a = some v.major ∧ read b = some v.minor ∧ read c = some v.patch ∧
        read d = some v.build := by
  constructor
  · intro h
    obtain ⟨major, ha, h⟩ := Option.bind_eq_some_iff.1 h
    obtain ⟨minor, hb, h⟩ := Option.bind_eq_some_iff.1 h
    obtain ⟨patch, hc, h⟩ := Option.bind_eq_some_iff.1 h
    obtain ⟨build, hd, h⟩ := Option.bind_eq_some_iff.1 h
    cases h
    exact ⟨ha, hb, hc, hd⟩
  · rintro ⟨ha, hb, hc, hd⟩
    simp only [ha, hb, hc, hd]
    rfl

end Version

namespace Statement

open Text

/-- A component as it is written in a gate: the digits of a number that has 32 bits. -/
structure IsComponent (s : List Char) (n : UInt32) : Prop where
  nonempty : s ≠ []
  digits : ∀ c ∈ s, isDigit c
  value : numeral s = n.toNat

theorem gateComponent?_eq_some_iff {s : List Char} {n : UInt32} :
    gateComponent? s = some n ↔ IsComponent s n := by
  unfold gateComponent? Version.component?
  constructor
  · intro h
    obtain ⟨hall, h⟩ := Option.ite_none_right_eq_some.1 h
    have hdigits := List.all_eq_true.1 hall
    rw [decimal?_of_digits hdigits] at h
    obtain ⟨m, hm, rfl⟩ := Option.map_eq_some_iff.1 h
    obtain ⟨⟨hne, hlt⟩, hm⟩ := Option.ite_none_right_eq_some.1 hm
    cases hm
    exact ⟨hne, hdigits, (UInt32.toNat_ofNat_of_lt' hlt).symm⟩
  · rintro ⟨hne, hdigits, hvalue⟩
    have hlt : numeral s < UInt32.size := hvalue ▸ n.toNat_lt_size
    rw [if_pos (List.all_eq_true.2 hdigits), decimal?_of_digits hdigits, if_pos ⟨hne, hlt⟩,
      Option.map_some, hvalue, UInt32.ofNat_toNat]

theorem dot_not_mem_of_isComponent {s : List Char} {n : UInt32} (h : IsComponent s n) :
    '.' ∉ s := by
  intro hmem
  exact absurd (h.digits '.' hmem) (by decide)

theorem gateVersion?_eq_some_iff {s : List Char} {v : Version} :
    gateVersion? s = some v ↔
      ∃ a b c d, s = 'v' :: (a ++ '.' :: (b ++ '.' :: (c ++ '.' :: d))) ∧ IsComponent a v.major ∧
        IsComponent b v.minor ∧ IsComponent c v.patch ∧ IsComponent d v.build := by
  constructor
  · intro h
    unfold gateVersion? at h
    split at h
    · rename_i r
      split at h
      · rename_i a b c d hpieces
        obtain ⟨ha, hb, hc, hd⟩ := Version.components_eq_some_iff.1 h
        rw [gateComponent?_eq_some_iff] at ha hb hc hd
        obtain ⟨rfl, -⟩ := Version.pieces_eq_four_iff.1 hpieces
        exact ⟨a, b, c, d, rfl, ha, hb, hc, hd⟩
      · cases h
    · cases h
  · rintro ⟨a, b, c, d, rfl, ha, hb, hc, hd⟩
    have hpieces := Version.pieces_eq_four_iff.2 ⟨rfl, dot_not_mem_of_isComponent ha,
      dot_not_mem_of_isComponent hb, dot_not_mem_of_isComponent hc, dot_not_mem_of_isComponent hd⟩
    rw [← gateComponent?_eq_some_iff] at ha hb hc hd
    simp only [gateVersion?, hpieces]
    exact Version.components_eq_some_iff.2 ⟨ha, hb, hc, hd⟩

/-! ### The grammar -/

/-- A gate as it is written: a relation, a gap and a version of four components. -/
inductive IsGate : List Char → Gate → Prop where
  | gate {relation : Relation} {version : Version} {gap a b c d : List Char} (hgap : IsGap gap)
      (ha : IsComponent a version.major) (hb : IsComponent b version.minor)
      (hc : IsComponent c version.patch) (hd : IsComponent d version.build) :
      IsGate (relation.symbol.toList ++ (gap ++
        'v' :: (a ++ '.' :: (b ++ '.' :: (c ++ '.' :: d))))) ⟨relation, version⟩

theorem IsGate.head? {s : List Char} {gate : Gate} (h : IsGate s gate) :
    ∀ c ∈ s.head?, isBlank c = false := by
  cases h with
  | @gate relation =>
      cases relation <;>
        · rintro _ ⟨⟩
          decide

/-- What may follow a command, and the parameters that it stands for: nothing or a gap, and then a
text on one line. -/
structure IsParams (rest : List Char) (params : String) : Prop where
  apart : ∀ c ∈ rest.head?, isBlank c
  oneLine : '\n' ∉ trimStart rest
  text : params = String.ofList (trim rest)

/-- The lines that are a statement, shape by shape. -/
inductive Written : List Char → Statement → Prop where
  | load {gap name : List Char} (hgap : IsGap gap) (hname : isName name) :
      Written ("LOAD_PLUGIN".toList ++ (gap ++ name)) (.load (String.ofList name) none)
  | gated {gap name gap' text : List Char} {gate : Gate} (hgap : IsGap gap) (hname : isName name)
      (hgap' : IsGap gap') (hgate : IsGate text gate) :
      Written ("LOAD_PLUGIN".toList ++ (gap ++ (name ++ (gap' ++ text))))
        (.load (String.ofList name) (some gate))
  | constant {name space rest : List Char} (hname : isName name) (hspace : ∀ c ∈ space, isBlank c)
      (hrest : trimStart rest ≠ []) (hline : '\n' ∉ trimStart rest) :
      Written (name ++ (space ++ (":=".toList ++ rest)))
        (.constant (String.ofList name) (String.ofList (trim rest)))
  | assign {name space space' plugin command rest : List Char} {params : String}
      (hname : isName name) (hspace : ∀ c ∈ space, isBlank c) (hspace' : ∀ c ∈ space', isBlank c)
      (hplugin : isUpperName plugin) (hcommand : isUpperName command)
      (hparams : IsParams rest params) :
      Written (name ++ (space ++ ("?=".toList ++ (space' ++ (plugin ++ '.' :: (command ++ rest))))))
        (.assign (String.ofList name) (String.ofList plugin) (String.ofList command) params)
  | command {plugin command rest : List Char} {params : String} (hplugin : isUpperName plugin)
      (hcommand : isUpperName command) (hparams : IsParams rest params) :
      Written (plugin ++ '.' :: (command ++ rest))
        (.command (String.ofList plugin) (String.ofList command) params)
  | always {gap name : List Char} (hgap : IsGap gap) (hname : isName name) :
      Written ("GOTO".toList ++ (gap ++ name)) (.jump "TRUE" (String.ofList name))
  | jump {gap condition gap' gap'' name : List Char} (hgap : IsGap gap) (hne : condition ≠ [])
      (htrimmed : Trimmed condition) (hline : '\n' ∉ condition) (hgap' : IsGap gap')
      (hgap'' : IsGap gap'') (hname : isName name) :
      Written ("IF".toList ++ (gap ++ (condition ++ (gap' ++ ("GOTO".toList ++ (gap'' ++ name))))))
        (.jump (String.ofList condition) (String.ofList name))
  | label {gap name : List Char} (hgap : IsGap gap) (hname : isName name) :
      Written ("LABEL".toList ++ (gap ++ name)) (.label (String.ofList name))

/-! ### Parts of a line -/

theorem oneLine_iff {s : List Char} : oneLine s = true ↔ '\n' ∉ s := by simp [oneLine]

theorem nameAfter?_eq_some_iff {word s : List Char} {name : String} :
    nameAfter? word s = some name ↔
      ∃ gap n, s = word ++ (gap ++ n) ∧ IsGap gap ∧ isName n ∧ name = String.ofList n := by
  constructor
  · intro h
    obtain ⟨r, hword, h⟩ := Option.bind_eq_some_iff.1 h
    obtain ⟨n, hblanks, h⟩ := Option.bind_eq_some_iff.1 h
    obtain ⟨hn, hname⟩ := Option.ite_none_right_eq_some.1 h
    obtain ⟨gap, hgap, rfl, -⟩ := blanks?_eq_some_iff.1 hblanks
    exact ⟨gap, n, word?_eq_some_iff.1 hword, hgap, hn, (Option.some.inj hname).symm⟩
  · rintro ⟨gap, n, rfl, hgap, hn, rfl⟩
    have hhead := not_isBlank_head?_of_isName hn []
    rw [List.append_nil] at hhead
    have hblanks := blanks?_append hgap hhead
    simp only [nameAfter?, word?_eq_some_iff.2 rfl, hblanks, Option.bind_eq_bind, Option.bind_some,
      wholeName?, if_pos hn]

theorem relation?_sound {s r : List Char} {relation : Relation}
    (h : relation? s = some (relation, r)) : s = relation.symbol.toList ++ r := by
  unfold relation? at h
  split at h <;> cases h <;> rfl

/-- A relation is read as it is written, if no `=` comes next. -/
theorem relation?_append (relation : Relation) {r : List Char} (h : ∀ c ∈ r.head?, c ≠ '=') :
    relation? (relation.symbol.toList ++ r) = some (relation, r) := by
  cases relation with
  | below =>
      change relation? ('<' :: r) = some (.below, r)
      cases r with
      | nil => rfl
      | cons c r => simp [relation?, h c rfl]
  | above =>
      change relation? ('>' :: r) = some (.above, r)
      cases r with
      | nil => rfl
      | cons c r => simp [relation?, h c rfl]
  | _ => rfl

theorem gate?_eq_some_iff {s : List Char} {gate : Gate} : gate? s = some gate ↔ IsGate s gate := by
  constructor
  · intro h
    obtain ⟨⟨relation, r⟩, hrelation, h⟩ := Option.bind_eq_some_iff.1 h
    obtain ⟨text, hblanks, h⟩ := Option.bind_eq_some_iff.1 h
    obtain ⟨version, hversion, h⟩ := Option.bind_eq_some_iff.1 h
    cases h
    obtain ⟨gap, hgap, rfl, -⟩ := blanks?_eq_some_iff.1 hblanks
    obtain ⟨a, b, c, d, rfl, ha, hb, hc, hd⟩ := gateVersion?_eq_some_iff.1 hversion
    rw [relation?_sound hrelation]
    exact .gate hgap ha hb hc hd
  · rintro ⟨hgap, ha, hb, hc, hd⟩
    rename_i relation version gap a b c d
    have hversion := gateVersion?_eq_some_iff.2 ⟨a, b, c, d, rfl, ha, hb, hc, hd⟩
    generalize htext : 'v' :: (a ++ '.' :: (b ++ '.' :: (c ++ '.' :: d))) = text at hversion ⊢
    have hrelation : relation? (relation.symbol.toList ++ (gap ++ text)) =
        some (relation, gap ++ text) := by
      apply relation?_append
      rintro _ hequals rfl
      exact absurd (hgap.head? text '=' hequals) (by decide)
    have hblanks : blanks? (gap ++ text) = some text := by
      apply blanks?_append hgap
      subst htext
      rintro _ ⟨⟩
      decide
    simp only [gate?, hrelation, hblanks, hversion, Option.bind_eq_bind, Option.bind_some]
    rfl

theorem params?_eq_some_iff {s : List Char} {params : String} :
    params? s = some params ↔ IsParams s params := by
  cases s with
  | nil =>
      refine ⟨?_, ?_⟩
      · rintro ⟨⟩
        exact ⟨by simp, by simp, rfl⟩
      · rintro ⟨-, -, rfl⟩
        rfl
  | cons c s =>
      constructor
      · intro h
        obtain ⟨r, hblanks, h⟩ := Option.bind_eq_some_iff.1 h
        obtain ⟨hline, h⟩ := Option.ite_none_right_eq_some.1 h
        cases h
        simp only [blanks?, Option.ite_none_right_eq_some, Option.some.injEq] at hblanks
        obtain ⟨hc, rfl⟩ := hblanks
        have htrim : trimStart (c :: s) = trimStart s := by rw [trimStart_cons, if_pos hc]
        refine ⟨by rintro _ ⟨⟩; exact hc, ?_, by rw [trim, htrim]⟩
        rw [htrim]
        exact oneLine_iff.1 hline
      · rintro ⟨hc, hline, rfl⟩
        have hc : isBlank c := hc c rfl
        have htrim : trimStart (c :: s) = trimStart s := by rw [trimStart_cons, if_pos hc]
        rw [htrim] at hline
        simp only [params?, blanks?, if_pos hc, Option.bind_eq_bind, Option.bind_some,
          if_pos (oneLine_iff.2 hline), trim, htrim]

theorem target?_eq_some_iff {s r : List Char} {plugin command : String} :
    target? s = some (plugin, command, r) ↔
      ∃ p c, s = p ++ '.' :: (c ++ r) ∧ isUpperName p ∧ isUpperName c ∧
        plugin = String.ofList p ∧ command = String.ofList c ∧
        ∀ d ∈ r.head?, isUpperChar d = false := by
  constructor
  · intro h
    obtain ⟨⟨p, s₁⟩, hplugin, h⟩ := Option.bind_eq_some_iff.1 h
    obtain ⟨s₂, hdot, h⟩ := Option.bind_eq_some_iff.1 h
    obtain ⟨⟨c, s₃⟩, hcommand, h⟩ := Option.bind_eq_some_iff.1 h
    cases h
    obtain ⟨rfl, hp, -⟩ := upperName?_eq_some_iff.1 hplugin
    obtain ⟨rfl, hc, hr⟩ := upperName?_eq_some_iff.1 hcommand
    rw [word?_eq_some_iff.1 hdot]
    exact ⟨p, c, rfl, hp, hc, rfl, rfl, hr⟩
  · rintro ⟨p, c, rfl, hp, hc, rfl, rfl, hr⟩
    have hplugin : upperName? (p ++ '.' :: (c ++ r)) = some (p, '.' :: (c ++ r)) :=
      upperName?_eq_some_iff.2 ⟨rfl, hp, by rintro _ ⟨⟩; decide⟩
    have hcommand : upperName? (c ++ r) = some (c, r) := upperName?_eq_some_iff.2 ⟨rfl, hc, hr⟩
    have hdot : word? ['.'] ('.' :: (c ++ r)) = some (c ++ r) := word?_eq_some_iff.2 rfl
    simp only [target?, hplugin, hdot, hcommand, Option.bind_eq_bind, Option.bind_some]
    rfl

/-- A label is the longest run of name characters at the end, for a blank comes before it. -/
theorem conditionAndLabel?_eq_some_iff {l : List Char} {s : Statement} :
    conditionAndLabel? l = some s ↔
      ∃ condition gap gap' name,
        l = condition ++ (gap ++ ("GOTO".toList ++ (gap' ++ name))) ∧ condition ≠ [] ∧
        '\n' ∉ condition ∧ (∀ c ∈ condition.getLast?, isBlank c = false) ∧ IsGap gap ∧
        IsGap gap' ∧ isName name ∧
        s = .jump (String.ofList condition) (String.ofList name) := by
  constructor
  · intro h
    obtain ⟨label, hlabel, h⟩ := Option.bind_eq_some_iff.1 h
    obtain ⟨r₁, hblanks, h⟩ := Option.bind_eq_some_iff.1 h
    obtain ⟨r₂, hgoto, h⟩ := Option.bind_eq_some_iff.1 h
    obtain ⟨r₃, hblanks', h⟩ := Option.bind_eq_some_iff.1 h
    obtain ⟨hcondition, h⟩ := Option.ite_none_right_eq_some.1 h
    obtain ⟨hname, hlabel⟩ := Option.ite_none_right_eq_some.1 hlabel
    cases h
    cases hlabel
    obtain ⟨gap', hgap', hr₁, -⟩ := blanks?_eq_some_iff.1 hblanks
    obtain ⟨gap, hgap, hr₂, hlast⟩ := blanks?_eq_some_iff.1 hblanks'
    simp only [Bool.and_eq_true, Bool.not_eq_true', List.isEmpty_eq_false_iff, oneLine_iff]
      at hcondition
    refine ⟨r₃.reverse, gap.reverse, gap'.reverse, _, ?_, by simpa using hcondition.1,
      by simpa using hcondition.2, by simpa using hlast, hgap.reverse, hgap'.reverse, hname, rfl⟩
    -- The line is put together again from behind.
    have hback := List.takeWhile_append_dropWhile (p := isNameChar) (l := l.reverse)
    rw [hr₁, word?_eq_some_iff.1 hgoto, hr₂] at hback
    have hl := congrArg List.reverse hback
    rw [List.reverse_reverse] at hl
    exact hl.symm.trans (by simp)
  · rintro ⟨condition, gap, gap', name, rfl, hne, hline, hlast, hgap, hgap', hname, rfl⟩
    have hback : (condition ++ (gap ++ ("GOTO".toList ++ (gap' ++ name)))).reverse =
        name.reverse ++ (gap'.reverse ++ (['O', 'T', 'O', 'G'] ++ (gap.reverse ++
          condition.reverse))) := by simp
    have hrun := takeWhile_append_of_run (n := name.reverse)
      (r := gap'.reverse ++ (['O', 'T', 'O', 'G'] ++ (gap.reverse ++ condition.reverse)))
      (fun c hc => all_isNameChar_of_isName hname c (List.mem_reverse.1 hc))
      (fun c hc => not_isNameChar_of_isBlank (hgap'.reverse.head? _ c hc))
    have hblanks : blanks? (gap'.reverse ++ (['O', 'T', 'O', 'G'] ++ (gap.reverse ++
        condition.reverse))) = some (['O', 'T', 'O', 'G'] ++ (gap.reverse ++ condition.reverse)) :=
      blanks?_append hgap'.reverse (by rintro _ ⟨⟩; decide)
    have hblanks' : blanks? (gap.reverse ++ condition.reverse) = some condition.reverse :=
      blanks?_append hgap.reverse (by simpa using hlast)
    have hcondition : (!condition.reverse.isEmpty && oneLine condition.reverse) = true := by
      simp [hne, oneLine_iff, hline]
    simp only [conditionAndLabel?, hback, hrun, hblanks, hblanks', word?_eq_some_iff.2 rfl,
      List.reverse_reverse, wholeName?, if_pos hname, Option.bind_eq_bind, Option.bind_some,
      if_pos hcondition]

/-! ### The shapes -/

/-- The reader of the shape that a statement has. -/
def reader : Statement → List Char → Option Statement
  | .load .. => load?
  | .constant .. => constant?
  | .assign .. => assign?
  | .command .. => command?
  | .jump .. => jump?
  | .label _ => label?

/-- The statement is a jump. -/
def IsJump : Statement → Prop
  | .jump .. => True
  | _ => False

/-- The statement defines this macro. -/
def Defines (name : String) : Statement → Prop
  | .constant name' _ | .assign name' .. => name' = name
  | _ => False

section Sound

variable {l : List Char} {s : Statement}

theorem written_of_load? (h : load? l = some s) : Written l s ∧ ¬ s.IsJump := by
  obtain ⟨r₁, hword, h₁⟩ := Option.bind_eq_some_iff.1 h
  obtain ⟨r₂, hblanks, h₂⟩ := Option.bind_eq_some_iff.1 h₁
  obtain ⟨⟨name, r₃⟩, hname, h₃⟩ := Option.bind_eq_some_iff.1 h₂
  obtain ⟨gap, hgap, hr₁, -⟩ := blanks?_eq_some_iff.1 hblanks
  obtain ⟨hr₂, hn, -⟩ := name?_eq_some_iff.1 hname
  rw [word?_eq_some_iff.1 hword, hr₁, hr₂]
  dsimp only at h₃
  split at h₃
  · cases h₃
    rw [List.append_nil]
    exact ⟨.load hgap hn, id⟩
  · obtain ⟨r₄, hblanks', h₄⟩ := Option.bind_eq_some_iff.1 h₃
    obtain ⟨gate, hgate, h₅⟩ := Option.bind_eq_some_iff.1 h₄
    cases h₅
    obtain ⟨gap', hgap', rfl, -⟩ := blanks?_eq_some_iff.1 hblanks'
    exact ⟨.gated hgap hn hgap' (gate?_eq_some_iff.1 hgate), id⟩

theorem written_of_constant? (h : constant? l = some s) : Written l s ∧ ¬ s.IsJump := by
  obtain ⟨⟨name, r₁⟩, hname, h⟩ := Option.bind_eq_some_iff.1 h
  obtain ⟨r₂, hword, h⟩ := Option.bind_eq_some_iff.1 h
  obtain ⟨htext, h⟩ := Option.ite_none_right_eq_some.1 h
  cases h
  simp only [Bool.and_eq_true, Bool.not_eq_true', List.isEmpty_eq_false_iff, oneLine_iff] at htext
  obtain ⟨rfl, hname, -⟩ := name?_eq_some_iff.1 hname
  obtain ⟨space, hspace, hr₁⟩ := exists_blanks_trimStart r₁
  rw [hr₁, word?_eq_some_iff.1 hword]
  exact ⟨.constant hname hspace htext.1 htext.2, id⟩

theorem written_of_assign? (h : assign? l = some s) : Written l s ∧ ¬ s.IsJump := by
  obtain ⟨⟨name, r₁⟩, hname, h⟩ := Option.bind_eq_some_iff.1 h
  obtain ⟨r₂, hword, h⟩ := Option.bind_eq_some_iff.1 h
  obtain ⟨⟨plugin, command, r₃⟩, htarget, h⟩ := Option.bind_eq_some_iff.1 h
  obtain ⟨params, hparams, h⟩ := Option.bind_eq_some_iff.1 h
  cases h
  obtain ⟨rfl, hname, -⟩ := name?_eq_some_iff.1 hname
  obtain ⟨space, hspace, hr₁⟩ := exists_blanks_trimStart r₁
  obtain ⟨space', hspace', hr₂⟩ := exists_blanks_trimStart r₂
  obtain ⟨p, c, htext, hp, hc, rfl, rfl, -⟩ := target?_eq_some_iff.1 htarget
  rw [hr₁, word?_eq_some_iff.1 hword, hr₂, htext]
  exact ⟨.assign hname hspace hspace' hp hc (params?_eq_some_iff.1 hparams), id⟩

theorem written_of_command? (h : command? l = some s) : Written l s ∧ ¬ s.IsJump := by
  obtain ⟨⟨plugin, command, r⟩, htarget, h⟩ := Option.bind_eq_some_iff.1 h
  obtain ⟨params, hparams, h⟩ := Option.bind_eq_some_iff.1 h
  cases h
  obtain ⟨p, c, rfl, hp, hc, rfl, rfl, -⟩ := target?_eq_some_iff.1 htarget
  exact ⟨.command hp hc (params?_eq_some_iff.1 hparams), id⟩

theorem written_of_jump? (h : jump? l = some s) : Written l s := by
  unfold jump? at h
  split at h
  · rename_i r hword
    obtain ⟨r₁, hblanks, h₁⟩ := Option.bind_eq_some_iff.1 h
    obtain ⟨gap, hgap, hr, hhead⟩ := blanks?_eq_some_iff.1 hblanks
    obtain ⟨condition, gap', gap'', name, hr₁, hne, hline, hlast, hgap', hgap'', hname, rfl⟩ :=
      conditionAndLabel?_eq_some_iff.1 h₁
    rw [word?_eq_some_iff.1 hword, hr, hr₁]
    have hhead : ∀ c ∈ condition.head?, isBlank c = false := by
      intro c hc
      rw [hr₁] at hhead
      exact hhead c (List.mem_head?_append_of_mem_head? hc)
    exact .jump hgap hne ⟨hhead, hlast⟩ hline hgap' hgap'' hname
  · obtain ⟨name, hname, rfl⟩ := Option.map_eq_some_iff.1 h
    obtain ⟨gap, n, rfl, hgap, hn, rfl⟩ := nameAfter?_eq_some_iff.1 hname
    exact .always hgap hn

theorem written_of_label? (h : label? l = some s) : Written l s ∧ ¬ s.IsJump := by
  obtain ⟨name, hname, rfl⟩ := Option.map_eq_some_iff.1 h
  obtain ⟨gap, n, rfl, hgap, hn, rfl⟩ := nameAfter?_eq_some_iff.1 hname
  exact ⟨.label hgap hn, id⟩

/-- However a line is cut into the parts of a shape, its reader makes the same of it. -/
theorem reader_of_written (h : Written l s) : s.reader l = some s := by
  have hend : ∀ {n : List Char}, isName n → name? n = some (n, []) := fun hn =>
    name?_eq_some_iff.2 ⟨(List.append_nil _).symm, hn, by simp⟩
  have hhead : ∀ {n : List Char}, isName n → ∀ c ∈ n.head?, isBlank c = false := by
    intro n hn
    have hhead := not_isBlank_head?_of_isName hn []
    rwa [List.append_nil] at hhead
  -- A name ends where a blank or a sign comes next.
  have hname : ∀ {n space r : List Char}, isName n → (∀ c ∈ space, isBlank c) →
      (∀ c ∈ r.head?, isNameChar c = false) →
      name? (n ++ (space ++ r)) = some (n, space ++ r) := by
    intro n space r hn hspace hr
    refine name?_eq_some_iff.2 ⟨rfl, hn, ?_⟩
    cases space with
    | nil => exact hr
    | cons d space =>
        rintro _ ⟨⟩
        exact not_isNameChar_of_isBlank (hspace d List.mem_cons_self)
  have htarget : ∀ {p c r : List Char} {params : String}, isUpperName p → isUpperName c →
      IsParams r params →
      target? (p ++ '.' :: (c ++ r)) = some (String.ofList p, String.ofList c, r) := by
    intro p c r params hp hc hparams
    refine target?_eq_some_iff.2 ⟨p, c, rfl, hp, hc, rfl, rfl, fun d hd => ?_⟩
    have hblank := not_isNameChar_of_isBlank (hparams.apart d hd)
    rw [Bool.eq_false_iff] at hblank ⊢
    exact fun hupper => hblank (isNameChar_of_isUpperChar hupper)
  cases h with
  | @load gap name hgap hn =>
      unfold reader load?
      refine Option.bind_eq_some_iff.2 ⟨gap ++ name, word?_eq_some_iff.2 rfl, ?_⟩
      refine Option.bind_eq_some_iff.2 ⟨name, blanks?_append hgap (hhead hn), ?_⟩
      exact Option.bind_eq_some_iff.2 ⟨(name, []), hend hn, rfl⟩
  | @gated gap name gap' text gate hgap hn hgap' hgate =>
      have hread : name? (name ++ (gap' ++ text)) = some (name, gap' ++ text) :=
        name?_eq_some_iff.2 ⟨rfl, hn, fun c hc => not_isNameChar_of_isBlank (hgap'.head? _ c hc)⟩
      have hrest : load? ("LOAD_PLUGIN".toList ++ (gap ++ (name ++ (gap' ++ text)))) =
          (do
            let gate ← gate? (← blanks? (gap' ++ text))
            return .load (String.ofList name) (some gate)) := by
        have hword : word? ['L', 'O', 'A', 'D', '_', 'P', 'L', 'U', 'G', 'I', 'N']
            ("LOAD_PLUGIN".toList ++ (gap ++ (name ++ (gap' ++ text)))) =
              some (gap ++ (name ++ (gap' ++ text))) := word?_eq_some_iff.2 rfl
        simp only [load?, hword, blanks?_append hgap (not_isBlank_head?_of_isName hn _), hread,
          Option.bind_eq_bind, Option.bind_some]
        cases gap' with
        | nil => exact absurd rfl hgap'.1
        | cons c gap' => rfl
      refine hrest.trans ?_
      refine Option.bind_eq_some_iff.2 ⟨text, blanks?_append hgap' hgate.head?, ?_⟩
      exact Option.bind_eq_some_iff.2 ⟨gate, gate?_eq_some_iff.2 hgate, rfl⟩
  | @constant name space rest hn hspace hrest hline =>
      unfold reader constant?
      refine Option.bind_eq_some_iff.2 ⟨_, hname hn hspace (by rintro _ ⟨⟩; decide), ?_⟩
      refine Option.bind_eq_some_iff.2 ⟨rest, ?_, ?_⟩
      · rw [trimStart_append hspace (by rintro _ ⟨⟩; decide)]
        exact word?_eq_some_iff.2 rfl
      · rw [if_pos (by simp [hrest, oneLine_iff, hline]), trim]
  | @assign name space space' plugin command rest params hn hspace hspace' hplugin hcommand
      hparams =>
      unfold reader assign?
      refine Option.bind_eq_some_iff.2 ⟨_, hname hn hspace (by rintro _ ⟨⟩; decide), ?_⟩
      refine Option.bind_eq_some_iff.2 ⟨space' ++ (plugin ++ '.' :: (command ++ rest)), ?_, ?_⟩
      · rw [trimStart_append hspace (by rintro _ ⟨⟩; decide)]
        exact word?_eq_some_iff.2 rfl
      · rw [trimStart_append hspace'
          (not_isBlank_head?_of_isName (isName_of_isUpperName hplugin) _)]
        refine Option.bind_eq_some_iff.2 ⟨_, htarget hplugin hcommand hparams, ?_⟩
        exact Option.bind_eq_some_iff.2 ⟨params, params?_eq_some_iff.2 hparams, rfl⟩
  | @command plugin command rest params hplugin hcommand hparams =>
      unfold reader command?
      refine Option.bind_eq_some_iff.2 ⟨_, htarget hplugin hcommand hparams, ?_⟩
      exact Option.bind_eq_some_iff.2 ⟨params, params?_eq_some_iff.2 hparams, rfl⟩
  | @always gap name hgap hn =>
      have hword : word? ['I', 'F'] ("GOTO".toList ++ (gap ++ name)) = none := rfl
      unfold reader jump?
      simp only [hword]
      exact Option.map_eq_some_iff.2
        ⟨_, nameAfter?_eq_some_iff.2 ⟨gap, name, rfl, hgap, hn, rfl⟩, rfl⟩
  | @jump gap condition gap' gap'' name hgap hne htrimmed hline hgap' hgap'' hn =>
      have hword : ∀ r, word? ['I', 'F'] ("IF".toList ++ r) = some r := fun _ =>
        word?_eq_some_iff.2 rfl
      unfold reader jump?
      simp only [hword]
      refine Option.bind_eq_some_iff.2 ⟨_, blanks?_append hgap ?_, ?_⟩
      · cases condition with
        | nil => exact absurd rfl hne
        | cons c condition => exact htrimmed.1
      · exact conditionAndLabel?_eq_some_iff.2
          ⟨condition, gap', gap'', name, rfl, hne, hline, htrimmed.2, hgap', hgap'', hn, rfl⟩
  | @label gap name hgap hn =>
      unfold reader label?
      exact Option.map_eq_some_iff.2
        ⟨_, nameAfter?_eq_some_iff.2 ⟨gap, name, rfl, hgap, hn, rfl⟩, rfl⟩

end Sound

/-! ### Shapes side by side -/

section Overlap

variable {l : List Char} {s s' : Statement}

/-- What is behind the first name of the line: the next word, or one of the signs that tell shapes
apart. -/
def Continues : Statement → List Char → List Char → Prop
  | .load .., n, r => n = "LOAD_PLUGIN".toList ∧ ∃ c ∈ (trimStart r).head?, isNameStart c
  | .constant name _, n, r => name = String.ofList n ∧ (trimStart r).head? = some ':'
  | .assign name .., n, r => name = String.ofList n ∧ (trimStart r).head? = some '?'
  | .command .., _, r => r.head? = some '.'
  | .jump .., n, r => n = "GOTO".toList ∧ (∃ c ∈ (trimStart r).head?, isNameStart c) ∨
      n = "IF".toList ∧ ∃ c ∈ r.head?, isBlank c
  | .label _, n, r => n = "LABEL".toList ∧ ∃ c ∈ (trimStart r).head?, isNameStart c

theorem continues_of_written (h : Written l s) :
    ∃ n r, name? l = some (n, r) ∧ s.Continues n r := by
  have hkeyword : ∀ {word gap r : List Char}, isName word → IsGap gap →
      name? (word ++ (gap ++ r)) = some (word, gap ++ r) := fun hword hgap =>
    name?_eq_some_iff.2 ⟨rfl, hword, fun c hc => not_isNameChar_of_isBlank (hgap.head? _ c hc)⟩
  have hnext : ∀ {gap n r : List Char}, IsGap gap → isName n →
      ∃ c ∈ (trimStart (gap ++ (n ++ r))).head?, isNameStart c := by
    intro gap n r hgap hn
    rw [trimStart_append hgap.2 (not_isBlank_head?_of_isName hn r)]
    obtain ⟨c, m, rfl, hc⟩ := exists_cons_of_isName hn
    exact ⟨c, rfl, hc⟩
  have hlast : ∀ {gap n : List Char}, IsGap gap → isName n →
      ∃ c ∈ (trimStart (gap ++ n)).head?, isNameStart c := by
    intro gap n hgap hn
    have := hnext hgap hn (r := [])
    rwa [List.append_nil] at this
  have hsign : ∀ {name space r : List Char} {c : Char}, isName name → (∀ c ∈ space, isBlank c) →
      isNameChar c = false → isBlank c = false →
      name? (name ++ (space ++ c :: r)) = some (name, space ++ c :: r) ∧
        (trimStart (space ++ c :: r)).head? = some c := by
    intro name space r c hname hspace hc hblank
    refine ⟨name?_eq_some_iff.2 ⟨rfl, hname, ?_⟩, ?_⟩
    · cases space with
      | nil => rintro _ ⟨⟩; exact hc
      | cons d space =>
          rintro _ ⟨⟩
          exact not_isNameChar_of_isBlank (hspace d List.mem_cons_self)
    · rw [trimStart_append hspace (by rintro _ ⟨⟩; exact hblank)]
      rfl
  cases h with
  | load hgap hname => exact ⟨_, _, hkeyword rfl hgap, rfl, hlast hgap hname⟩
  | gated hgap hname _ _ => exact ⟨_, _, hkeyword rfl hgap, rfl, hnext hgap hname⟩
  | constant hname hspace _ _ =>
      obtain ⟨hread, hhead⟩ := hsign hname hspace (c := ':') rfl rfl
      exact ⟨_, _, hread, rfl, hhead⟩
  | assign hname hspace _ _ _ _ =>
      obtain ⟨hread, hhead⟩ := hsign hname hspace (c := '?') rfl rfl
      exact ⟨_, _, hread, rfl, hhead⟩
  | command hplugin _ _ =>
      refine ⟨_, _, name?_eq_some_iff.2 ⟨rfl, isName_of_isUpperName hplugin, ?_⟩, rfl⟩
      rintro _ ⟨⟩
      rfl
  | always hgap hname => exact ⟨_, _, hkeyword rfl hgap, .inl ⟨rfl, hlast hgap hname⟩⟩
  | @jump gap _ _ _ _ hgap _ _ _ _ _ _ =>
      refine ⟨_, _, hkeyword rfl hgap, .inr ⟨rfl, ?_⟩⟩
      obtain ⟨hne, hall⟩ := hgap
      cases gap with
      | nil => exact absurd rfl hne
      | cons c gap => exact ⟨c, rfl, hall c List.mem_cons_self⟩
  | label hgap hname => exact ⟨_, _, hkeyword rfl hgap, rfl, hlast hgap hname⟩

/-- What is behind the first name tells shapes apart, but for jumps and macros called `IF`. -/
theorem reader_eq_or_overlap {n r : List Char} (hs : s.Continues n r) (hs' : s'.Continues n r) :
    s.reader = s'.reader ∨ (s.IsJump ∧ s'.Defines "IF") ∨ (s'.IsJump ∧ s.Defines "IF") := by
  have hdot : r.head? = some '.' → (trimStart r).head? = some '.' := by
    intro hr
    rw [trimStart_of_not_blank (by rw [hr]; rintro _ ⟨⟩; rfl), hr]
  have hsigns : isNameStart ':' = false ∧ isNameStart '?' = false ∧ isNameStart '.' = false ∧
      isBlank '.' = false := by decide
  have hif : n = "IF".toList → String.ofList n = "IF" := by
    rintro rfl
    rfl
  cases s <;> cases s' <;> simp only [Continues] at hs hs'
  all_goals first
    | exact .inl rfl
    | grind [IsJump, Defines]

/-- A line is a statement in one way only, unless it is a jump and defines a macro called `IF`. -/
theorem eq_or_overlap (h : Written l s) (h' : Written l s') :
    s = s' ∨ (s.IsJump ∧ s'.Defines "IF") ∨ (s'.IsJump ∧ s.Defines "IF") := by
  obtain ⟨n, r, hname, hs⟩ := continues_of_written h
  obtain ⟨n', r', hname', hs'⟩ := continues_of_written h'
  rw [hname] at hname'
  cases hname'
  rcases reader_eq_or_overlap hs hs' with hreader | hoverlap
  · have hread := reader_of_written h
    rw [hreader, reader_of_written h'] at hread
    exact .inl (Option.some.inj hread).symm
  · exact .inr hoverlap

theorem reader_mem_shapes (s : Statement) : s.reader ∈ shapes := by
  cases s <;> simp [reader, shapes]

end Overlap

/-! ### Lines -/

section Line

variable {line : String} {s : Statement}

theorem parse?_eq_none_iff : parse? line = none ↔ ∀ s, ¬ Written line.toList s := by
  unfold parse?
  rw [List.findSome?_eq_none_iff]
  constructor
  · intro h s hwritten
    have hread := reader_of_written hwritten
    rw [h s.reader (reader_mem_shapes s)] at hread
    cases hread
  · intro h read hmem
    cases hread : read line.toList with
    | none => rfl
    | some s =>
        simp only [shapes, List.mem_cons, List.not_mem_nil, or_false] at hmem
        rcases hmem with rfl | rfl | rfl | rfl | rfl | rfl
        · exact absurd (written_of_load? hread).1 (h s)
        · exact absurd (written_of_constant? hread).1 (h s)
        · exact absurd (written_of_assign? hread).1 (h s)
        · exact absurd (written_of_command? hread).1 (h s)
        · exact absurd (written_of_jump? hread) (h s)
        · exact absurd (written_of_label? hread).1 (h s)

/-- A line is written as what it is read as, and read as a jump only if it defines no macro. -/
theorem written_of_parse? (h : parse? line = some s) :
    Written line.toList s ∧ (s.IsJump → ∀ s', Written line.toList s' → ¬ s'.Defines "IF") := by
  have hother : ∀ {s'}, Written line.toList s' ∧ ¬ s'.IsJump → some s' = some s →
      Written line.toList s ∧ (s.IsJump → ∀ s', Written line.toList s' → ¬ s'.Defines "IF") := by
    rintro _ ⟨hwritten, hjump⟩ ⟨⟩
    exact ⟨hwritten, fun hjump' => absurd hjump' hjump⟩
  unfold parse? shapes at h
  simp only [List.findSome?_cons, List.findSome?_nil] at h
  cases hload : load? line.toList with
  | some _ =>
      rw [hload] at h
      exact hother (written_of_load? hload) h
  | none =>
  cases hconstant : constant? line.toList with
  | some _ =>
      rw [hload, hconstant] at h
      exact hother (written_of_constant? hconstant) h
  | none =>
  cases hassign : assign? line.toList with
  | some _ =>
      rw [hload, hconstant, hassign] at h
      exact hother (written_of_assign? hassign) h
  | none =>
  cases hcommand : command? line.toList with
  | some _ =>
      rw [hload, hconstant, hassign, hcommand] at h
      exact hother (written_of_command? hcommand) h
  | none =>
  cases hjump : jump? line.toList with
  | some _ =>
      rw [hload, hconstant, hassign, hcommand, hjump] at h
      cases h
      refine ⟨written_of_jump? hjump, fun _ s' hwritten hdefines => ?_⟩
      -- A definition would have been read before the jump.
      have hread := reader_of_written hwritten
      cases s' with
      | constant _ _ =>
          rw [reader, hconstant] at hread
          cases hread
      | assign _ _ _ _ =>
          rw [reader, hassign] at hread
          cases hread
      | _ => cases hdefines
  | none =>
  cases hlabel : label? line.toList with
  | some _ =>
      rw [hload, hconstant, hassign, hcommand, hjump, hlabel] at h
      exact hother (written_of_label? hlabel) h
  | none =>
      rw [hload, hconstant, hassign, hcommand, hjump, hlabel] at h
      cases h

/-- A line is read as what it is written as, unless it is a jump and defines a macro. -/
theorem parse?_of_written (h : Written line.toList s)
    (hjump : s.IsJump → ∀ s', Written line.toList s' → ¬ s'.Defines "IF") :
    parse? line = some s := by
  cases hparse : parse? line with
  | none => exact absurd h (parse?_eq_none_iff.1 hparse s)
  | some s' =>
      obtain ⟨h', hjump'⟩ := written_of_parse? hparse
      rcases eq_or_overlap h' h with rfl | ⟨hs', hdefines⟩ | ⟨hs, hdefines⟩
      · rfl
      · exact absurd hdefines (hjump' hs' s h)
      · exact absurd hdefines (hjump hs s' h')

/-- A line is read as the statement that it is written as, with the parts that the grammar names,
and not at all if it is written as none. Only a jump can be written as something else as well, the
definition of a macro called `IF`, and then it is the definition, which comes first. -/
theorem parse?_iff_written (line : String) :
    (∀ s, parse? line = some s ↔ Written line.toList s ∧
      (s.IsJump → ∀ s', Written line.toList s' → ¬ s'.Defines "IF")) ∧
    (parse? line = none ↔ ∀ s, ¬ Written line.toList s) := by
  refine ⟨fun s => ⟨written_of_parse?, ?_⟩, parse?_eq_none_iff⟩
  rintro ⟨hwritten, hjump⟩
  exact parse?_of_written hwritten hjump

example : parse? "IF := A GOTO B" = some (.constant "IF" "A GOTO B") := by decide

end Line

end Statement

end RigScript
