import FormulaGrid.Formula.Basic
import FormulaGrid.Text.Quoted

/-!
Operands are evaluated from left to right and the first failure ends the evaluation. The path holds
the names whose formulas are being evaluated right now, the memo the values of those that are done.
The limit counts one call for every node that is entered. It is what is left of the stack where an
evaluation starts, so it depends on who asks.
-/

namespace FormulaGrid
open Text

abbrev Bindings := String → Option Formula

inductive Value where
  | empty
  | number (n : Int)
  | unbound (name : String)
  deriving DecidableEq, Repr

def Value.formula : Value → Formula
  | .empty => .empty
  | .number n => .constant n
  | .unbound name => .reference name

inductive EvalError where
  | emptyOperand (op : Op)
  | unresolvedOperand (op : Op) (name : String)
  | circular (name : String)
  | rule (cause : Op.RuleError)
  | tooDeep
  deriving DecidableEq, Repr

def EvalError.message : EvalError → String
  | .emptyOperand op => "operator " ++ quoted op.text ++ " applied to an empty cell"
  | .unresolvedOperand op name =>
    "operator " ++ quoted op.text ++ " applied to unresolved " ++ quoted name
  | .circular name => "circular reference through " ++ name
  | .rule cause => cause.message
  | .tooDeep => "reference chain too deep to evaluate"

def Value.operand (op : Op) : Value → Except EvalError Int
  | .empty => .error (.emptyOperand op)
  | .number n => .ok n
  | .unbound name => .error (.unresolvedOperand op name)

def combine (op : Op) (numbers : List Int) : Except EvalError Value :=
  match op.apply numbers with
  | .ok n => .ok (.number n)
  | .error cause => .error (.rule cause)

abbrev Memo := List (String × Value)

/-- The value of a formula while the names of the path are being evaluated. -/
def reduce (bindings : Bindings) : Nat → List String → Formula →
    StateT Memo (Except EvalError) Value
  | 0, _, _ => throw .tooDeep
  | _ + 1, _, .empty => pure .empty
  | _ + 1, _, .constant n => pure (.number n)
  | limit + 1, path, .reference name =>
    match bindings name with
    | none => pure (.unbound name)
    | some bound =>
      if name ∈ path then throw (.circular name)
      else do
        match (← get).lookup name with
        | some value => pure value
        | none =>
          let value ← reduce bindings limit (name :: path) bound
          modify ((name, value) :: ·)
          pure value
  | limit + 1, path, .operator op operands => do
    let numbers ← operands.mapM fun operand => do
      let value ← reduce bindings limit path operand
      value.operand op
    combine op numbers

def valueWithin (bindings : Bindings) (limit : Nat) (f : Formula) : Except EvalError Value :=
  (reduce bindings limit [] f).run' []

/-- The limit of an evaluation that starts on an empty stack. -/
def callLimit : Nat := 1000

def Formula.value (bindings : Bindings) (f : Formula) : Except EvalError Value :=
  valueWithin bindings callLimit f

end FormulaGrid
