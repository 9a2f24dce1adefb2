import FormulaGrid.Evaluation
import FormulaGrid.Formula.Checked
import FormulaGrid.Formula.Number

/-!
Evaluation on formulas, with the checks that values need not make: that a sign has a rule, that a
result is a node, that an operand to be named in a message has a text.
-/

namespace FormulaGrid
open Text

inductive Fault where
  | eval (e : EvalError)
  | unknownOperator (symbol : String)
  | noNumber (e : NumberError)
  | invalid (e : InvalidFormula)
  /-- An operand without a number has no text to name it by. -/
  | unwritable (limit : DigitLimit)

def Op.ApplyError.fault : Op.ApplyError → Fault
  | .unknown symbol => .unknownOperator symbol
  | .rule cause => .eval (.rule cause)

def Formula.operand (op : Op) (f : Formula) : Except Fault Int :=
  match f with
  | .empty => .error (.eval (.emptyOperand op))
  | .constant _ => f.number.mapError .noNumber
  | _ =>
    match f.render with
    | .ok text => .error (.eval (.unresolvedOperand op text))
    | .error limit => .error (.unwritable limit)

def checkedCombine (op : Op) (numbers : List Int) : Except Fault Formula := do
  let n ← (Op.applySymbol op.text numbers).mapError Op.ApplyError.fault
  (Formula.constant? (.integer n)).mapError .invalid

abbrev FormulaMemo := List (String × Formula)

def checkedReduce (bindings : Bindings) : Nat → List String → Formula →
    StateT FormulaMemo (Except Fault) Formula
  | 0, _, _ => throw (.eval .tooDeep)
  | _ + 1, _, .empty => pure .empty
  | _ + 1, _, .constant n => pure (.constant n)
  | limit + 1, path, .reference name =>
    match bindings name with
    | none => pure (.reference name)
    | some bound =>
      if name ∈ path then throw (.eval (.circular name))
      else do
        match (← get).lookup name with
        | some result => pure result
        | none =>
          let result ← checkedReduce bindings limit (name :: path) bound
          modify ((name, result) :: ·)
          pure result
  | limit + 1, path, .operator op operands => do
    let numbers ← operands.mapM fun operand => do
      let result ← checkedReduce bindings limit path operand
      result.operand op
    checkedCombine op numbers

def checkedValueWithin (bindings : Bindings) (limit : Nat) (f : Formula) : Except Fault Formula :=
  (checkedReduce bindings limit [] f).run' []

end FormulaGrid
