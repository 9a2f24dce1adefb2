import FormulaGrid.Evaluation

namespace FormulaGrid

def plainReduce (bindings : Bindings) : Nat → List String → Formula → Except EvalError Value
  | 0, _, _ => throw .tooDeep
  | _ + 1, _, .empty => pure .empty
  | _ + 1, _, .constant n => pure (.number n)
  | limit + 1, path, .reference name =>
    match bindings name with
    | none => pure (.unbound name)
    | some bound =>
      if name ∈ path then throw (.circular name)
      else plainReduce bindings limit (name :: path) bound
  | limit + 1, path, .operator op operands => do
    let numbers ← operands.mapM fun operand => do
      let value ← plainReduce bindings limit path operand
      value.operand op
    combine op numbers

def plainValueWithin (bindings : Bindings) (limit : Nat) (f : Formula) : Except EvalError Value :=
  plainReduce bindings limit [] f

end FormulaGrid
