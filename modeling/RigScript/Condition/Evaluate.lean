import RigScript.Condition.Token

/-! ## Evaluating a condition

`OR` binds weakest, then `AND`, then `NOT`; parentheses group. The tokens are taken one after
the other. Between tokens the evaluator either waits for an operand or has just completed one,
and for every open parenthesis, and for the condition as a whole, it keeps a *frame*: the value
of what stands to the left at that level. No operand is skipped, so a fault is found wherever it
stands, and always at the first token that no continuation could repair. -/

namespace RigScript.Condition

/-- What is known at one level of parentheses. -/
structure Frame where
  /-- The value of the terms left of the last `OR`; false if there is none. -/
  terms : Bool := false
  /-- The value of the factors since then; true if there is none. -/
  factors : Bool := true
  /-- An odd number of `NOT` stands before the next operand. -/
  negated : Bool := false
  deriving DecidableEq, Repr

namespace Frame

/-- An operand is complete. -/
def operand (f : Frame) (b : Bool) : Frame :=
  { f with factors := f.factors && (b != f.negated), negated := false }

def negate (f : Frame) : Frame := { f with negated := !f.negated }

/-- A term is complete and another one follows. -/
def nextTerm (f : Frame) : Frame := { terms := f.terms || f.factors }

def value (f : Frame) : Bool := f.terms || f.factors

end Frame

/-- A place between two tokens; `outer` holds the frames of the levels around the present one. -/
inductive State where
  /-- An operand has to follow. -/
  | before (frame : Frame) (outer : List Frame)
  /-- An operand has just been completed. -/
  | after (frame : Frame) (outer : List Frame)
  deriving DecidableEq, Repr

namespace State

def start : State := .before {} []

def take : State → Token → Except ConditionError State
  | .before f outer, .value b => .ok (.after (f.operand b) outer)
  | .before f outer, .not => .ok (.before f.negate outer)
  -- A pending `NOT` stays with the level outside, where it waits for the value of this one.
  | .before f outer, .opening => .ok (.before {} (f :: outer))
  | .after f outer, .and => .ok (.before f outer)
  | .after f outer, .or => .ok (.before f.nextTerm outer)
  | .after f (g :: outer), .closing => .ok (.after (g.operand f.value) outer)
  | _, t => .error (.unexpectedToken t.spelling)

/-- Take tokens from the left. -/
def takeAll : State → List Token → Except ConditionError State
  | s, [] => .ok s
  | s, t :: ts => do (← s.take t).takeAll ts

/-- The value of a condition that ends here. -/
def finish : State → Except ConditionError Bool
  | .after f [] => .ok f.value
  | _ => .error .unexpectedEnd

end State

/-- The value of a row of tokens. -/
def value : List Token → Except ConditionError Bool
  | [] => .error .empty
  | ts => do (← State.start.takeAll ts).finish

def evaluate (s : String) : Except ConditionError Bool := do value (← Token.scan s.toList)

namespace State

@[simp] theorem takeAll_nil (s : State) : s.takeAll [] = .ok s := rfl

end State

end RigScript.Condition
