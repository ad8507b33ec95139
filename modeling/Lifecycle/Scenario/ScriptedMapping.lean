import Lifecycle.Mapping
import Lifecycle.Scenario.Action

/-! Mapping contexts whose checks are written down. The checks are numbered from zero, all classes
together; the first ones may panic, and the others may call the interceptor back before they
answer.
-/

namespace Lifecycle.Scenario

/-- How a check answers: by the package of the class, by the number of the check from a list whose
last answer is given ever after, or by a set of types.
-/
inductive Verdict where
  | below (package : String)
  | listed (answers : List Bool)
  | registered (mappings : Mappings)

/-- The answer of the check with the given number. -/
def Verdict.answer (verdict : Verdict) (cls : EntityClass) (number : Nat) : Bool :=
  match verdict with
  | .below package => cls.isBelow package
  | .listed answers => (answers[min number (answers.length - 1)]?).getD false
  | .registered mappings => mappings.contains cls.key

/-- A mapping context that panics at its first checks, then calls back, then answers. -/
structure ScriptedMapping where
  panics : Nat
  onCheck : List Callback
  verdict : Verdict

namespace ScriptedMapping

variable {ε own α : Type}

/-- Makes calls back whose answers nobody looks at. -/
def callAll (calls : List Callback) (next : Script ε Memory own α) : Script ε Memory own α :=
  match calls with
  | [] => next
  | call :: rest => call.script (fun (_ : Option (Remark Unit)) => callAll rest next)

/-- The mapping context. While a check is at its calls, the checks that they lead to make none.
-/
def context (mapping : ScriptedMapping) : MappingContext ε Memory := fun cls =>
  .access (fun (_, memory) => ((), { memory with checks := memory.checks + 1 }))
    (fun (_, memory) =>
      let number := memory.checks - 1
      let answer := mapping.verdict.answer cls number
      if number < mapping.panics then .panic
      else if memory.checking then .done answer
      else
        .access (fun (_, memory) => ((), { memory with checking := true })) (fun _ =>
          callAll mapping.onCheck
            (.access (fun (_, memory) => ((), { memory with checking := false }))
              (fun _ => .done answer))))

end ScriptedMapping

end Lifecycle.Scenario
