import RigScript.Proofs.Plugin.Action

/-! ## What an action adds to the trace

Most actions do nothing to the workers: they write some events and leave the tasks as they are.
`Session.Adds` says so, with the events. Events fall into phases; those that open, construct,
destroy or unload libraries belong to none. -/

namespace RigScript

/-- The phases of an execution, in which hooks of plugins are called. -/
inductive Phase where
  | configuring | initializing | checking | enabling | running
  deriving DecidableEq, Repr

/-- The phases in their order. -/
def Phase.rank : Phase → Nat
  | .configuring => 0
  | .initializing => 1
  | .checking => 2
  | .enabling => 3
  | .running => 4

namespace Event

/-- The phase that a call of a hook belongs to. What is done to a library is no such call. -/
def phase? : Event → Option Phase
  | .configured .. => some .configuring
  | .initialized _ => some .initializing
  | .checked _ => some .checking
  | .enabled _ => some .enabling
  | .called _ | .started .. | .finished .. => some .running
  | .opened _ | .resolved _ | .constructed _ | .destroyed _ | .unloaded _ => none

/-- The call of a handler that the script waits for. -/
def call? : Event → Option Call
  | .called call => some call
  | _ => none

end Event

namespace Session

variable {ω : Type} {s s₁ s₂ : Session ω} {events events₁ events₂ : List Event}

/-- The calls of handlers that the script has waited for. -/
def calls (s : Session ω) : List Call := s.trace.filterMap Event.call?

/-- From one session to another these events were written, and nothing was done to the tasks. -/
structure Adds (s : Session ω) (events : List Event) (s₁ : Session ω) : Prop where
  trace : s₁.trace = s.trace ++ events
  pool : s₁.pool = s.pool

theorem Adds.refl (s : Session ω) : Adds s [] s := ⟨(List.append_nil _).symm, rfl⟩

theorem Adds.trans (h₁ : Adds s events₁ s₁) (h₂ : Adds s₁ events₂ s₂) :
    Adds s (events₁ ++ events₂) s₂ where
  trace := by rw [h₂.trace, h₁.trace, List.append_assoc]
  pool := h₂.pool.trans h₁.pool

theorem Adds.record (h : Adds s events s₁) (e : Event) : Adds s (events ++ [e]) (s₁.record e) :=
  h.trans ⟨rfl, rfl⟩

theorem Adds.note (h : Adds s events s₁) (severity : Severity) (text : String) :
    Adds s events (s₁.note severity text) := ⟨h.trace, h.pool⟩

theorem Adds.act {α : Type} (h : Adds s events s₁) (m : StateM ω α) :
    Adds s events (s₁.act m).2 := ⟨h.trace, h.pool⟩

/-- What follows an action and writes nothing, leaves what the action has written. -/
theorem Adds.bind {ε α β : Type} {x : EStateM ε (Session ω) α} {f : α → EStateM ε (Session ω) β}
    (h : Adds s events (Action.state (x s)))
    (hf : ∀ a s₁, Adds s₁ [] (Action.state (f a s₁))) :
    Adds s events (Action.state ((x >>= f) s)) := by
  cases hx : x s with
  | ok a s₁ =>
      rw [hx] at h
      rw [Action.bind_of_ok hx, ← List.append_nil events]
      exact h.trans (hf a s₁)
  | error e s₁ =>
      rw [hx] at h
      rw [Action.bind_of_error hx]
      exact h

end Session

end RigScript
