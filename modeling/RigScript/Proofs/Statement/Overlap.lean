import RigScript.Proofs.Statement.Grammar

/-! ## Shapes that overlap

The shapes of statements are tried in a fixed order. The order matters for few lines only: a line
fits two shapes just if it is a jump with a condition and defines a macro called `IF` as well, and
then it fits no third one. Every other line is read alike in whatever order the shapes are tried. -/

namespace RigScript.Statement

open Text

/-- The six shapes. -/
inductive Shape where
  | load | constant | assign | command | jump | label
  deriving DecidableEq, Repr

namespace Shape

/-- The shapes in the order in which they are tried. -/
def all : List Shape := [load, constant, assign, command, jump, label]

/-- Read a line as a statement of this shape. -/
def read : Shape → List Char → Option Statement
  | load => load?
  | constant => constant?
  | assign => assign?
  | command => command?
  | jump => jump?
  | label => label?

theorem mem_all (k : Shape) : k ∈ all := by cases k <;> decide

theorem map_read_all : all.map read = shapes := rfl

end Shape

/-- The shape that a statement has. -/
def kind : Statement → Shape
  | .load .. => .load
  | .constant .. => .constant
  | .assign .. => .assign
  | .command .. => .command
  | .jump .. => .jump
  | .label _ => .label

theorem isJump_iff {s : Statement} : s.IsJump ↔ s.kind = .jump := by
  cases s <;> simp [IsJump, kind]

theorem kind_of_defines {s : Statement} {name : String} (h : s.Defines name) :
    s.kind = .constant ∨ s.kind = .assign := by
  cases s with
  | constant => exact .inl rfl
  | assign => exact .inr rfl
  | _ => cases h

variable {l : List Char} {s s' : Statement} {k k' : Shape}

/-! ### What is read as a shape has the shape -/

theorem kind_of_conditionAndLabel? (h : conditionAndLabel? l = some s) : s.kind = .jump := by
  obtain ⟨_, _, _, _, -, -, -, -, -, -, -, rfl⟩ := conditionAndLabel?_eq_some_iff.1 h
  rfl

theorem kind_of_load? (h : load? l = some s) : s.kind = .load := by
  obtain ⟨_, -, h⟩ := Option.bind_eq_some_iff.1 h
  obtain ⟨_, -, h⟩ := Option.bind_eq_some_iff.1 h
  obtain ⟨⟨name, r⟩, -, h⟩ := Option.bind_eq_some_iff.1 h
  dsimp only at h
  split at h
  · cases h
    rfl
  · obtain ⟨_, -, h⟩ := Option.bind_eq_some_iff.1 h
    obtain ⟨_, -, h⟩ := Option.bind_eq_some_iff.1 h
    cases h
    rfl

theorem kind_of_constant? (h : constant? l = some s) : s.kind = .constant := by
  obtain ⟨_, -, h⟩ := Option.bind_eq_some_iff.1 h
  obtain ⟨_, -, h⟩ := Option.bind_eq_some_iff.1 h
  obtain ⟨-, h⟩ := Option.ite_none_right_eq_some.1 h
  cases h
  rfl

theorem kind_of_assign? (h : assign? l = some s) : s.kind = .assign := by
  obtain ⟨_, -, h⟩ := Option.bind_eq_some_iff.1 h
  obtain ⟨_, -, h⟩ := Option.bind_eq_some_iff.1 h
  obtain ⟨_, -, h⟩ := Option.bind_eq_some_iff.1 h
  obtain ⟨_, -, h⟩ := Option.bind_eq_some_iff.1 h
  cases h
  rfl

theorem kind_of_command? (h : command? l = some s) : s.kind = .command := by
  obtain ⟨_, -, h⟩ := Option.bind_eq_some_iff.1 h
  obtain ⟨_, -, h⟩ := Option.bind_eq_some_iff.1 h
  cases h
  rfl

theorem kind_of_jump? (h : jump? l = some s) : s.kind = .jump := by
  unfold jump? at h
  split at h
  · obtain ⟨_, -, h⟩ := Option.bind_eq_some_iff.1 h
    exact kind_of_conditionAndLabel? h
  · obtain ⟨_, -, rfl⟩ := Option.map_eq_some_iff.1 h
    rfl

theorem kind_of_label? (h : label? l = some s) : s.kind = .label := by
  obtain ⟨_, -, rfl⟩ := Option.map_eq_some_iff.1 h
  rfl

/-- A shape reads the lines that are written as a statement of the shape. -/
theorem written_of_read (h : k.read l = some s) : Written l s ∧ s.kind = k := by
  cases k with
  | load => exact ⟨(written_of_load? h).1, kind_of_load? h⟩
  | constant => exact ⟨(written_of_constant? h).1, kind_of_constant? h⟩
  | assign => exact ⟨(written_of_assign? h).1, kind_of_assign? h⟩
  | command => exact ⟨(written_of_command? h).1, kind_of_command? h⟩
  | jump => exact ⟨written_of_jump? h, kind_of_jump? h⟩
  | label => exact ⟨(written_of_label? h).1, kind_of_label? h⟩

/-! ### Two shapes that fit -/

/-- One shape is that of jumps, and the other one reads the definition of a macro called `IF`. -/
structure JumpDefines (k k' : Shape) (s' : Statement) : Prop where
  jump : k = .jump
  definition : k' = .constant ∨ k' = .assign
  defines : s'.Defines "IF"

theorem jumpDefines_of_read (hne : k ≠ k') (h : k.read l = some s) (h' : k'.read l = some s') :
    JumpDefines k k' s' ∨ JumpDefines k' k s := by
  obtain ⟨hwritten, rfl⟩ := written_of_read h
  obtain ⟨hwritten', rfl⟩ := written_of_read h'
  rcases eq_or_overlap hwritten hwritten' with rfl | ⟨hjump, hdefines⟩ | ⟨hjump, hdefines⟩
  · exact absurd rfl hne
  · exact .inl ⟨isJump_iff.1 hjump, kind_of_defines hdefines, hdefines⟩
  · exact .inr ⟨isJump_iff.1 hjump, kind_of_defines hdefines, hdefines⟩

/-- Of three shapes that fit, two would be definitions or two would be jumps. -/
theorem read_eq_none_of_jumpDefines {k'' : Shape} (h : JumpDefines k k' s')
    (hread' : k'.read l = some s') (hne : k'' ≠ k) (hne' : k'' ≠ k') : k''.read l = none := by
  cases hread : k''.read l with
  | none => rfl
  | some s'' =>
      rcases jumpDefines_of_read hne' hread hread' with hjump | hjump
      · exact absurd (hjump.jump.trans h.jump.symm) hne
      · rcases h.definition with hk | hk <;> cases hk.symm.trans hjump.jump

/-! ### The order of the shapes -/

/-- The line begins like the definition of a macro called `IF`, with blanks behind the name. -/
inductive BeginsDefinition : List Char → Prop where
  | constant {gap rest : List Char} (hgap : IsGap gap) :
    BeginsDefinition ("IF".toList ++ (gap ++ (":=".toList ++ rest)))
  | assign {gap rest : List Char} (hgap : IsGap gap) :
    BeginsDefinition ("IF".toList ++ (gap ++ ("?=".toList ++ rest)))

/-- Behind the word of a jump there is a blank. -/
theorem isBlank_of_written_jump {r : List Char} (h : Written ("IF".toList ++ r) s)
    (hjump : s.IsJump) : ∃ c ∈ r.head?, isBlank c := by
  generalize hl : "IF".toList ++ r = l at h
  cases h with
  | always => cases hl
  | @jump gap _ _ _ _ hgap =>
      obtain rfl := List.append_cancel_left hl
      cases gap with
      | nil => exact absurd rfl hgap.1
      | cons c gap => exact ⟨c, rfl, hgap.2 c List.mem_cons_self⟩
  | _ => cases hjump

/-- A jump that is a definition too begins like one. -/
theorem beginsDefinition_of_written (h : Written l s) (hjump : s.IsJump) (h' : Written l s')
    (hdefines : s'.Defines "IF") : BeginsDefinition l := by
  have hname : ∀ {n : List Char}, String.ofList n = "IF" → n = "IF".toList := by
    intro n hn
    rw [← hn, String.toList_ofList]
  -- The name and the sign are not joined, since a blank follows the word of the jump.
  have hgap : ∀ {space tail : List Char} {sign : Char}, (∀ c ∈ space, isBlank c) →
      isBlank sign = false → Written ("IF".toList ++ (space ++ sign :: tail)) s → IsGap space := by
    intro space tail sign hspace hsign hwritten
    obtain ⟨c, hc, hblank⟩ := isBlank_of_written_jump hwritten hjump
    refine ⟨?_, hspace⟩
    rintro rfl
    cases hc
    rw [hsign] at hblank
    cases hblank
  cases h' with
  | constant _ hspace _ _ =>
      obtain rfl := hname hdefines
      exact .constant (hgap hspace (by decide) h)
  | assign _ hspace _ _ _ _ =>
      obtain rfl := hname hdefines
      exact .assign (hgap hspace (by decide) h)
  | _ => cases hdefines

/-- Shapes that fit a line agree on it, unless it begins like a definition of `IF`. -/
theorem eq_of_read (hbegins : ¬ BeginsDefinition l) (h : k.read l = some s)
    (h' : k'.read l = some s') : s = s' := by
  obtain ⟨hwritten, -⟩ := written_of_read h
  obtain ⟨hwritten', -⟩ := written_of_read h'
  rcases eq_or_overlap hwritten hwritten' with heq | ⟨hjump, hdefines⟩ | ⟨hjump, hdefines⟩
  · exact heq
  · exact absurd (beginsDefinition_of_written hwritten hjump hwritten' hdefines) hbegins
  · exact absurd (beginsDefinition_of_written hwritten' hjump hwritten hdefines) hbegins

theorem parse?_eq_findSome? (line : String) :
    parse? line = Shape.all.findSome? (·.read line.toList) := by
  rw [parse?, ← Shape.map_read_all, List.findSome?_map]
  rfl

/-- A search whose hits agree does not depend on the order. -/
theorem findSome?_eq_of_agree {α β : Type} {f : α → Option β} {as bs : List α}
    (hmem : ∀ a, a ∈ as ↔ a ∈ bs)
    (hagree : ∀ {a a' b b'}, f a = some b → f a' = some b' → b = b') :
    as.findSome? f = bs.findSome? f := by
  cases has : as.findSome? f with
  | none =>
      rw [List.findSome?_eq_none_iff] at has
      exact (List.findSome?_eq_none_iff.2 fun b hb => has b ((hmem b).2 hb)).symm
  | some x =>
      obtain ⟨a, ha, hfa⟩ := List.exists_of_findSome?_eq_some has
      cases hbs : bs.findSome? f with
      | none => rw [List.findSome?_eq_none_iff.1 hbs a ((hmem a).1 ha)] at hfa; cases hfa
      | some y =>
          obtain ⟨b, -, hfb⟩ := List.exists_of_findSome?_eq_some hbs
          rw [hagree hfa hfb]

/-- Two shapes fit a line only if it is a jump and the definition of a macro called `IF`, and then
no third one fits. A line that does not begin like such a definition is read as the same statement
in every order of the shapes. -/
theorem shapes_overlap (line : String) :
    (∀ k k' s s', k ≠ k' → k.read line.toList = some s → k'.read line.toList = some s' →
      (JumpDefines k k' s' ∨ JumpDefines k' k s) ∧
        ∀ k'', k'' ≠ k → k'' ≠ k' → k''.read line.toList = none) ∧
    (¬ BeginsDefinition line.toList → ∀ order : List Shape, (∀ k, k ∈ order) →
      order.findSome? (·.read line.toList) = parse? line) := by
  refine ⟨fun k k' s s' hne h h' => ?_, fun hbegins order hall => ?_⟩
  · have hoverlap := jumpDefines_of_read hne h h'
    refine ⟨hoverlap, fun k'' hk hk' => ?_⟩
    rcases hoverlap with hjump | hjump
    · exact read_eq_none_of_jumpDefines hjump h' hk hk'
    · exact read_eq_none_of_jumpDefines hjump h hk' hk
  · rw [parse?_eq_findSome?]
    refine findSome?_eq_of_agree (fun k => ?_) (eq_of_read hbegins)
    exact iff_of_true (hall k) k.mem_all

/-- A constant called `IF` whose text ends like a jump fits two shapes, and a command with the word
of a jump in its parameters is a command in whatever order the shapes are tried. -/
theorem shapes_overlap_if :
    (JumpDefines .jump .constant (.constant "IF" "A GOTO B") ∧
      ∀ k : Shape, k ≠ .jump → k ≠ .constant → k.read "IF := A GOTO B".toList = none) ∧
    Shape.all.reverse.findSome? (·.read "UART.SEND IF := A GOTO B".toList) =
      some (.command "UART" "SEND" "IF := A GOTO B") := by
  have hjump : Shape.jump.read "IF := A GOTO B".toList = some (.jump ":= A" "B") := by decide
  have hconstant : Shape.constant.read "IF := A GOTO B".toList =
      some (.constant "IF" "A GOTO B") := by decide
  obtain ⟨hoverlap, hnone⟩ := (shapes_overlap "IF := A GOTO B").1 .jump .constant _ _
    (by decide) hjump hconstant
  refine ⟨⟨hoverlap.resolve_right fun h => (by cases h.jump), hnone⟩, ?_⟩
  have hbegins : ¬ BeginsDefinition "UART.SEND IF := A GOTO B".toList := by
    generalize hl : "UART.SEND IF := A GOTO B".toList = l
    rintro (_ | _) <;> cases hl
  have hread := (shapes_overlap "UART.SEND IF := A GOTO B").2 hbegins Shape.all.reverse
    fun k => List.mem_reverse.2 k.mem_all
  rw [hread]
  decide

end RigScript.Statement
