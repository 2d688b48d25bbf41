import RigScript.Macro.Table
import RigScript.Text.Name

/-! ## Macro expansion

A text refers to a macro by `$` and the longest name that follows. One *pass* puts the bound text
in the place of every such reference, from left to right, and leaves the others as they are; what
it puts in is not looked at again. Expansion repeats the pass, at most 16 times, so that the text
of a macro may refer to further macros and a circle of them still comes to an end. -/

namespace RigScript

/-- A part of a text as a pass sees it. -/
inductive Piece where
  | char (c : Char)
  | reference (name : List Char)
  deriving DecidableEq, Repr

namespace Piece

def source : Piece → List Char
  | .char c => [c]
  | .reference name => '$' :: name

def name? : Piece → Option String
  | .char _ => none
  | .reference name => some (String.ofList name)

def ofChars (s : List Char) : List Piece :=
  match s with
  | [] => []
  | c :: r =>
    if c = '$' then
      match _h : Text.name? r with
      | some (name, rest) => .reference name :: ofChars rest
      | none => .char c :: ofChars r
    else .char c :: ofChars r
termination_by s.length
decreasing_by
  · rw [Text.append_of_name? _h]; simp only [List.length_cons, List.length_append]; omega
  · exact Nat.lt_succ_self _
  · exact Nat.lt_succ_self _

/-- Nothing is lost in taking a text apart. -/
theorem flatMap_source_ofChars (s : List Char) : (ofChars s).flatMap source = s := by
  fun_induction ofChars s with
  | case1 => rfl
  | case2 r name rest h ih =>
    rw [List.flatMap_cons, ih, source, Text.append_of_name? h, List.cons_append]
  | case3 r h ih => rw [List.flatMap_cons, ih, source, List.singleton_append]
  | case4 c r hc ih => rw [List.flatMap_cons, ih, source, List.singleton_append]

end Piece

namespace MacroTable

/-- What a pass writes for a part. -/
def value (t : MacroTable) : Piece → List Char
  | .char c => [c]
  | .reference name =>
    match t.get? (String.ofList name) with
    | some text => text.toList
    | none => '$' :: name

def pass (t : MacroTable) (s : List Char) : List Char := (Piece.ofChars s).flatMap t.value

/-- At most `n` passes; there is nothing left to do once no `$` is left or nothing changes. -/
def passes (t : MacroTable) : Nat → List Char → List Char
  | 0, s => s
  | n + 1, s =>
    if '$' ∉ s then s
    -- References that are left have no text; another pass would leave them too.
    else if t.pass s = s then s
    else t.passes n (t.pass s)

def maxPasses : Nat := 16

/-- Put the bound texts in the place of the references. -/
def expand (t : MacroTable) (text : String) : String :=
  String.ofList (t.passes maxPasses text.toList)

/-- The names that a text refers to and the table does not hold, as often as they occur. -/
def undefined (t : MacroTable) (text : String) : List String :=
  ((Piece.ofChars text.toList).filterMap Piece.name?).filter (!t.contains ·)

@[simp] theorem toList_expand (t : MacroTable) (text : String) :
    (t.expand text).toList = t.passes maxPasses text.toList := String.toList_ofList

end MacroTable

end RigScript
