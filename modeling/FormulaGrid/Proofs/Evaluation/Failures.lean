import FormulaGrid.Proofs.Evaluation.Follows
import FormulaGrid.Proofs.Formula.WellFormed

namespace FormulaGrid
open Filter

/-- The error lies in the operands or the names of a formula, not in an operator that was given no
operand to start from. -/
def EvalError.IsTypeError (e : EvalError) : Prop :=
  e ≠ .rule .noOperands

variable {bindings : Bindings} {limit : Nat} {path : List String} {op : Op} {e : EvalError}

theorem Value.operand_error {value : Value} (failed : value.operand op = .error e) :
    e = .emptyOperand op ∨ ∃ name, e = .unresolvedOperand op name := by
  cases value with
  | empty =>
      cases failed
      exact .inl rfl
  | number n => cases failed
  | unbound name =>
      cases failed
      exact .inr ⟨name, rfl⟩

theorem combine_error {numbers : List Int} (failed : combine op numbers = .error e) :
    ∃ cause, op.apply numbers = .error cause ∧ e = .rule cause := by
  unfold combine at failed
  split at failed
  · cases failed
  · rename_i cause applied
    cases failed
    exact ⟨cause, applied, rfl⟩

theorem plainReduce_reference_error {name : String}
    (failed : plainReduce bindings (limit + 1) path (.reference name) = .error e) :
    ∃ f, bindings name = some f ∧ (name ∈ path ∧ e = .circular name ∨
      plainReduce bindings limit (name :: path) f = .error e) := by
  rw [plainReduce] at failed
  split at failed
  · cases failed
  · rename_i f found
    split at failed
    · rename_i on
      cases failed
      exact ⟨f, found, .inl ⟨on, rfl⟩⟩
    · exact ⟨f, found, .inr failed⟩

theorem plainReduce_operator_error {operands : List Formula}
    (failed : plainReduce bindings (limit + 1) path (.operator op operands) = .error e) :
    (∃ operand ∈ operands, plainReduce bindings limit path operand = .error e) ∨
    (∃ value : Value, value.operand op = .error e) ∨
    ∃ numbers : List Int, operands.length = numbers.length ∧ combine op numbers = .error e := by
  rcases bind_eq_error.mp failed with stopped | ⟨numbers, each, combined⟩
  · obtain ⟨operand, member, single⟩ := exists_error_of_mapM stopped
    rcases bind_eq_error.mp single with inside | ⟨value, -, read⟩
    · exact .inl ⟨operand, member, inside⟩
    · exact .inr (.inl ⟨value, read⟩)
  · exact .inr (.inr ⟨numbers, length_of_mapM each, combined⟩)

theorem foldlM_quotient_ne_noOperands (divisors : List Int) (dividend : Int) :
    divisors.foldlM Op.quotient dividend ≠ .error .noOperands := by
  induction divisors generalizing dividend with
  | nil => simp [pure, Except.pure]
  | cons divisor divisors ih =>
      rw [List.foldlM_cons]
      refine bind_ne_error ?_ ih
      unfold Op.quotient
      split <;> simp

theorem Op.apply_ne_noOperands {numbers : List Int} (some : numbers ≠ []) :
    op.apply numbers ≠ .error .noOperands := by
  obtain ⟨first, rest, rfl⟩ := List.exists_cons_of_ne_nil some
  cases op with
  | divide => exact foldlM_quotient_ne_noOperands rest first
  | _ => simp [apply]

theorem plainReduce_isTypeError (wellFormed : bindings.WellFormed) {f : Formula}
    (formed : f.WellFormed) (failed : plainReduce bindings limit path f = .error e) :
    e.IsTypeError := by
  induction limit generalizing path f with
  | zero =>
      cases failed
      simp [EvalError.IsTypeError]
  | succ limit ih =>
      cases formed with
      | empty => cases failed
      | constant n => cases failed
      | reference named =>
          obtain ⟨f, found, ⟨-, rfl⟩ | inside⟩ := plainReduce_reference_error failed
          · simp [EvalError.IsTypeError]
          · exact ih (wellFormed _ f found) inside
      | @operator op operands enough below =>
          rcases plainReduce_operator_error failed with
            ⟨operand, member, inside⟩ | ⟨value, read⟩ | ⟨numbers, length, combined⟩
          · exact ih (below operand member) inside
          · rcases Value.operand_error read with rfl | ⟨name, rfl⟩ <;> simp [EvalError.IsTypeError]
          · obtain ⟨cause, applied, rfl⟩ := combine_error combined
            have some : numbers ≠ [] := by
              apply List.ne_nil_of_length_pos
              rw [← length]
              exact Nat.lt_of_lt_of_le op.leastOperands_pos enough
            rintro ⟨⟩
            exact Op.apply_ne_noOperands some applied

theorem exists_plain_of_error {f : Formula} (failed : valueWithin bindings limit f = .error e) :
    e = .tooDeep ∨ ∃ deep, plainValueWithin bindings deep f = .error e := by
  obtain ⟨deep, cut⟩ := (valueWithin_cutOff bindings limit f).exists
  rw [failed] at cut
  rcases cut with deepest | same
  · exact .inl (Except.error.inj deepest)
  · exact .inr ⟨deep, same.symm⟩

theorem isTypeError_of_failed (wellFormed : bindings.WellFormed) {f : Formula}
    (formed : f.WellFormed) (failed : valueWithin bindings limit f = .error e) :
    e.IsTypeError := by
  rcases exists_plain_of_error failed with rfl | ⟨deep, plain⟩
  · simp [EvalError.IsTypeError]
  · exact plainReduce_isTypeError wellFormed formed plain

end FormulaGrid
