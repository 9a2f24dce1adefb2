import FormulaGrid.Evaluation
import FormulaGrid.Formula.Normal
import FormulaGrid.Proofs.Tables

namespace FormulaGrid

namespace Formula

mutual

def isWellFormed : Formula → Bool
  | empty => true
  | constant _ => true
  | reference name => name ≠ ""
  | operator op operands => op.leastOperands ≤ operands.length && areWellFormed operands

def areWellFormed : List Formula → Bool
  | [] => true
  | f :: fs => f.isWellFormed && areWellFormed fs

end

theorem areWellFormed_eq (fs : List Formula) : areWellFormed fs = fs.all isWellFormed := by
  induction fs with
  | nil => rfl
  | cons f fs ih => rw [areWellFormed, List.all_cons, ih]

theorem isWellFormed_iff {f : Formula} : f.isWellFormed = true ↔ f.WellFormed := by
  induction f using induct with
  | onEmpty => exact iff_of_true rfl .empty
  | onConstant n => exact iff_of_true rfl (.constant n)
  | onReference name =>
      rw [isWellFormed, decide_eq_true_eq]
      constructor
      · exact .reference
      · intro formed
        cases formed with
        | reference named => exact named
  | onOperator op operands ih =>
      rw [isWellFormed, areWellFormed_eq, Bool.and_eq_true, decide_eq_true_eq, List.all_eq_true,
        forall₂_congr ih]
      constructor
      · rintro ⟨enough, below⟩
        exact .operator enough below
      · intro formed
        cases formed with
        | operator enough below => exact ⟨enough, below⟩

instance : DecidablePred WellFormed :=
  fun _ => decidable_of_iff _ isWellFormed_iff

theorem NormalUnder.wellFormed {g : Grammar} {above : List Op} {f : Formula}
    (normal : f.NormalUnder g above) : f.WellFormed := by
  induction normal with
  | empty => exact .empty
  | @constant above n _ _ => exact .constant n
  | reference spelled _ =>
      refine .reference ?_
      rintro rfl
      cases spelled
  | @operator above op operands _ _ many _ ih =>
      have enough : op.leastOperands ≤ 2 := by
        cases op <;> decide
      exact .operator (Nat.le_trans enough many) ih

end Formula

def Bindings.WellFormed (bindings : Bindings) : Prop :=
  ∀ name f, bindings name = some f → f.WellFormed

theorem Table.wellFormed_get? {env : Table String Formula}
    (each : ∀ entry ∈ env.entries, entry.2.WellFormed) : Bindings.WellFormed env.get? :=
  fun _ _ entry => each _ (mem_entries_of_get? entry)

end FormulaGrid
