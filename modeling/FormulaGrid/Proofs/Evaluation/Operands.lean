import FormulaGrid.Evaluation
import FormulaGrid.Proofs.Outcomes

namespace FormulaGrid

theorem Value.operand_ne_tooDeep (op : Op) (value : Value) :
    value.operand op ≠ .error .tooDeep := by
  cases value <;> simp [Value.operand]

theorem combine_ne_tooDeep (op : Op) (numbers : List Int) :
    combine op numbers ≠ .error .tooDeep := by
  unfold combine
  split <;> simp

namespace Formula

theorem height_pos (f : Formula) : 0 < f.height := by
  cases f <;> simp [height]

theorem height_le_heightOfAll {f : Formula} {fs : List Formula} (member : f ∈ fs) :
    f.height ≤ heightOfAll fs := by
  induction fs with
  | nil => cases member
  | cons g gs ih =>
      rw [heightOfAll]
      rcases List.mem_cons.mp member with rfl | later
      · exact Nat.le_max_left _ _
      · exact Nat.le_trans (ih later) (Nat.le_max_right _ _)

theorem height_lt_operator {op : Op} {operands : List Formula} {f : Formula}
    (member : f ∈ operands) : f.height < (operator op operands).height := by
  rw [height]
  exact Nat.lt_succ_of_le (height_le_heightOfAll member)

end Formula

end FormulaGrid
