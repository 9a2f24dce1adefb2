import FormulaGrid.Evaluation

/-!
Evaluation with a record of the names whose formulas it has begun. The record and the memo outlive a
failure.
-/

namespace FormulaGrid

structure Progress where
  memo : Memo
  /-- The names whose formulas were begun, the latest one first. -/
  begun : List String
  deriving DecidableEq

/-- A computation that may fail and keeps what it has noted when it does. -/
abbrev Recording := ExceptT EvalError (StateM Progress)

def Progress.start : Progress := ⟨[], []⟩

def Progress.begin (name : String) (p : Progress) : Progress :=
  { p with begun := name :: p.begun }

def Progress.note (name : String) (value : Value) (p : Progress) : Progress :=
  { p with memo := (name, value) :: p.memo }

def recordedReduce (bindings : Bindings) : Nat → List String → Formula → Recording Value
  | 0, _, _ => throw .tooDeep
  | _ + 1, _, .empty => pure .empty
  | _ + 1, _, .constant n => pure (.number n)
  | limit + 1, path, .reference name =>
    match bindings name with
    | none => pure (.unbound name)
    | some bound =>
      if name ∈ path then throw (.circular name)
      else do
        match (← get).memo.lookup name with
        | some value => pure value
        | none =>
          modify (Progress.begin name)
          let value ← recordedReduce bindings limit (name :: path) bound
          modify (Progress.note name value)
          pure value
  | limit + 1, path, .operator op operands => do
    let numbers ← operands.mapM fun operand => do
      let value ← recordedReduce bindings limit path operand
      value.operand op
    combine op numbers

def recordedValueWithin (bindings : Bindings) (limit : Nat) (f : Formula) :
    Except EvalError Value × Progress :=
  (recordedReduce bindings limit [] f).run.run .start

end FormulaGrid
