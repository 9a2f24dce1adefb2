import FormulaGrid.Operator

namespace FormulaGrid

inductive Formula where
  | empty
  | constant (value : Int)
  | reference (name : String)
  | operator (op : Op) (operands : List Formula)
  deriving Repr, Inhabited

namespace Formula

/-! ## Equality -/

mutual

def same : Formula → Formula → Bool
  | empty, empty => true
  | constant m, constant n => m == n
  | reference x, reference y => x == y
  | operator o xs, operator p ys => o == p && sameAll xs ys
  | _, _ => false

def sameAll : List Formula → List Formula → Bool
  | [], [] => true
  | x :: xs, y :: ys => same x y && sameAll xs ys
  | _, _ => false

end

mutual

theorem same_iff : ∀ a b : Formula, same a b = true ↔ a = b
  | empty, b => by cases b <;> simp [same]
  | constant _, b => by cases b <;> simp [same]
  | reference _, b => by cases b <;> simp [same]
  | operator _ xs, b => by cases b <;> simp [same, sameAll_iff xs]

theorem sameAll_iff : ∀ xs ys : List Formula, sameAll xs ys = true ↔ xs = ys
  | [], ys => by cases ys <;> simp [sameAll]
  | x :: xs, ys => by cases ys <;> simp [sameAll, same_iff x, sameAll_iff xs]

end

instance : DecidableEq Formula :=
  fun a b => decidable_of_iff _ (same_iff a b)

/-! ## Induction -/

@[elab_as_elim]
theorem induct {motive : Formula → Prop} (onEmpty : motive empty)
    (onConstant : ∀ n, motive (constant n)) (onReference : ∀ name, motive (reference name))
    (onOperator : ∀ op operands, (∀ f ∈ operands, motive f) → motive (operator op operands))
    (f : Formula) : motive f :=
  @Formula.rec motive (fun fs => ∀ f ∈ fs, motive f) onEmpty onConstant onReference onOperator
    (fun _ mem => nomatch mem)
    (fun _ _ head tail => List.forall_mem_cons.2 ⟨head, tail⟩) f

/-! ## Names -/

mutual

def names : Formula → List String
  | empty => []
  | constant _ => []
  | reference name => [name]
  | operator _ operands => namesOfAll operands

def namesOfAll : List Formula → List String
  | [] => []
  | f :: fs => f.names ++ namesOfAll fs

end

theorem namesOfAll_eq (fs : List Formula) : namesOfAll fs = fs.flatMap names := by
  induction fs with
  | nil => rfl
  | cons f fs ih => rw [namesOfAll, List.flatMap_cons, ih]

@[simp] theorem names_operator (op : Op) (operands : List Formula) :
    (operator op operands).names = operands.flatMap names :=
  namesOfAll_eq operands

def dependencies (f : Formula) : List String :=
  f.names.eraseDups

@[simp] theorem mem_dependencies {f : Formula} {name : String} :
    name ∈ f.dependencies ↔ name ∈ f.names := by
  simp [dependencies]

/-! ## Operators -/

mutual

def operators : Formula → List Op
  | empty => []
  | constant _ => []
  | reference _ => []
  | operator op operands => op :: operatorsOfAll operands

def operatorsOfAll : List Formula → List Op
  | [] => []
  | f :: fs => f.operators ++ operatorsOfAll fs

end

theorem operatorsOfAll_eq (fs : List Formula) : operatorsOfAll fs = fs.flatMap operators := by
  induction fs with
  | nil => rfl
  | cons f fs ih => rw [operatorsOfAll, List.flatMap_cons, ih]

@[simp] theorem operators_operator (op : Op) (operands : List Formula) :
    (operator op operands).operators = op :: operands.flatMap operators := by
  rw [operators, operatorsOfAll_eq]

/-! ## Height -/

mutual

/-- The number of nodes on the longest way down a formula. -/
def height : Formula → Nat
  | empty => 1
  | constant _ => 1
  | reference _ => 1
  | operator _ operands => heightOfAll operands + 1

def heightOfAll : List Formula → Nat
  | [] => 0
  | f :: fs => max f.height (heightOfAll fs)

end

/-! ## What the checked ways to build a formula guarantee -/

inductive WellFormed : Formula → Prop
  | empty : WellFormed empty
  | constant (n : Int) : WellFormed (constant n)
  | reference {name : String} : name ≠ "" → WellFormed (reference name)
  | operator {op : Op} {operands : List Formula} : op.leastOperands ≤ operands.length →
      (∀ f ∈ operands, WellFormed f) → WellFormed (operator op operands)

end Formula

end FormulaGrid
