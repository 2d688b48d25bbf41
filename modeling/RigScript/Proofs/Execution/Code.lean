import RigScript.Proofs.Execution.Step
import RigScript.Proofs.Program.Code

/-! ## Executions leave the code as it is

Of a program that is executed only the texts of its variables and the last results of its entries
change. So what is known of its code before a step is known after it, and a run keeps it step by
step. -/

namespace RigScript.Machine

variable {ω : Type} {handles : List (Handle ω)} {m : Machine ω} {delay : Nat}

section Dispatch

variable {line : Nat} {plugin command params : String}

theorem Resolved.program_eq
    {result : EStateM.Result ExecError (Machine ω) (Option (Handle ω × Handler ω))}
    (h : Resolved handles line plugin command m result) :
    (Action.state result).program = m.program := by
  cases h <;> rfl

theorem Dispatched.program_eq {result : EStateM.Result ExecError (Machine ω) String}
    (h : Dispatched handles line plugin command m delay params result) :
    (Action.state result).program = m.program := by
  cases h with
  | refused hresolved => exact hresolved.program_eq
  | _ => rfl

theorem HandedOver.program_eq {result : EStateM.Result ExecError (Machine ω) Unit}
    (h : HandedOver handles line plugin command m delay params result) :
    (Action.state result).program = m.program := by
  cases h with
  | refused hresolved => exact hresolved.program_eq
  | _ => rfl

end Dispatch

theorem assigned_code (m : Machine ω) (place : Nat) (name result : String) :
    (m.assigned place name result).program.code = m.program.code := by
  -- Only the entry at the place is touched, and of it only what the code leaves out.
  apply List.ext_getElem?
  intro i
  simp only [assigned, Program.code, List.getElem?_map, List.getElem?_modify]
  cases m.program.steps[i]? with
  | none => rfl
  | some s =>
      by_cases hi : place = i
      · cases hentry : s.entry <;> simp [hi, hentry, Step.code, Entry.code]
      · simp [hi]

theorem Stepped.code_eq {place : Nat} {s : Step}
    {result : EStateM.Result ExecError (Machine ω) Nat}
    (h : Stepped handles delay place s m result) :
    (Action.state result).program.code = m.program.code := by
  cases h with
  | command _ hdispatch => exact congrArg Program.code hdispatch.program_eq
  | commandFault _ hdispatch => exact congrArg Program.code hdispatch.program_eq
  | detached _ hdispatch => exact congrArg Program.code hdispatch.program_eq
  | detachedFault _ hdispatch => exact congrArg Program.code hdispatch.program_eq
  | assign _ hdispatch =>
      exact (assigned_code _ _ _ _).trans (congrArg Program.code hdispatch.program_eq)
  | assignFault _ hdispatch => exact congrArg Program.code hdispatch.program_eq
  | jump _ hjump => cases hjump <;> rfl
  | label _ => rfl

end RigScript.Machine
