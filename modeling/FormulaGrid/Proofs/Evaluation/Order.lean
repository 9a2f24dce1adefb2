import FormulaGrid.Proofs.Evaluation.Solutions
import FormulaGrid.Proofs.Operators
import Mathlib.Data.List.Forall2

/-!
# Operands in another order

The order of the operands decides which of them finds a name in the memo. The value of an operator is
what the rule makes of the numbers that they have on their own (`hasValue_operator_iff`).
-/

namespace FormulaGrid

theorem Op.Reorders.exists_numbers {op : Op} {operands others : List Formula} {numbers : List Int}
    {R : Formula → Int → Prop} (reorders : op.Reorders operands others)
    (each : List.Forall₂ R operands numbers) :
    ∃ reordered, List.Forall₂ R others reordered ∧ op.Reorders numbers reordered := by
  cases reorders with
  | all symmetric perm =>
      obtain ⟨reordered, each, perm⟩ := List.perm_comp_forall₂ perm.symm each
      exact ⟨reordered, each, .all symmetric perm.symm⟩
  | rest starts perm =>
      cases each with
      | @cons _ n _ _ first each =>
          obtain ⟨reordered, each, perm⟩ := List.perm_comp_forall₂ perm.symm each
          exact ⟨n :: reordered, .cons first each, .rest starts perm.symm⟩

section
variable {bindings : Bindings} {op : Op} {operands others : List Formula}

theorem Op.Reorders.hasValue {value : Value} (reorders : op.Reorders operands others)
    (h : (Formula.operator op operands).HasValue bindings value) :
    (Formula.operator op others).HasValue bindings value := by
  obtain ⟨numbers, n, each, applied, rfl⟩ := hasValue_operator_iff.mp h
  obtain ⟨reordered, each, same⟩ := reorders.exists_numbers each
  rw [same.apply_eq] at applied
  exact hasValue_operator each applied

theorem exists_answer (bindings : Bindings) (f : Formula) :
    ∃ answer : Option Int, ∀ n, f.HasValue bindings (.number n) ↔ answer = some n := by
  by_cases found : ∃ n, f.HasValue bindings (.number n)
  · obtain ⟨n, h⟩ := found
    refine ⟨some n, fun m => ⟨fun other => ?_, ?_⟩⟩
    · rw [Value.number.inj (h.unique other)]
    · rintro ⟨⟩
      exact h
  · refine ⟨none, fun m => ⟨fun h => absurd ⟨m, h⟩ found, ?_⟩⟩
    rintro ⟨⟩

theorem operator_comes_to {answer : Option Int}
    (settled : ∀ n, (Formula.operator op operands).HasValue bindings (.number n) ↔ answer = some n)
    (limit : Nat) : valueWithin bindings limit (.operator op operands) = .error .tooDeep ∨
      (valueWithin bindings limit (.operator op operands)).toOption = answer.map .number := by
  cases answer with
  | some n =>
      rcases ((settled n).mpr rfl).cutOff limit with cut | done
      · exact .inl cut
      · exact .inr (by rw [done]; rfl)
  | none =>
      cases done : valueWithin bindings limit (.operator op operands) with
      | error e => exact .inr rfl
      | ok value =>
          have h := hasValue_of_ok done
          obtain ⟨numbers, n, -, -, rfl⟩ := hasValue_operator_iff.mp h
          cases (settled n).mp h

end

/-- For `+`, `*` and `=` with the operands in any order, and for `-` and `/` with those behind the first
one in any order, there is one answer, a number or none. -/
theorem operand_order_irrelevant (env : Table String Formula) {op : Op}
    {operands others : List Formula} (reorders : op.Reorders operands others) :
    ∃ answer : Option Int, ∀ list ∈ [operands, others],
      (∃ enough, ∀ limit, enough ≤ limit →
        valueWithin env.get? limit (.operator op list) ≠ .error .tooDeep) ∧
      ∀ limit, valueWithin env.get? limit (.operator op list) = .error .tooDeep ∨
        (valueWithin env.get? limit (.operator op list)).toOption = answer.map .number := by
  obtain ⟨answer, settled⟩ := exists_answer env.get? (.operator op operands)
  have same : ∀ n, (Formula.operator op others).HasValue env.get? (.number n) ↔ answer = some n :=
    fun n => ⟨fun h => (settled n).mp (reorders.symm.hasValue h),
      fun found => reorders.hasValue ((settled n).mpr found)⟩
  have uncut (list : List Formula) : ∃ enough, ∀ limit, enough ≤ limit →
      valueWithin env.get? limit (.operator op list) ≠ .error .tooDeep :=
    ⟨deepEnough env (.operator op list), fun limit => valueWithin_ne_tooDeep_of_deepEnough⟩
  refine ⟨answer, List.forall_mem_cons.mpr ⟨⟨uncut operands, operator_comes_to settled⟩, ?_⟩⟩
  exact List.forall_mem_singleton.mpr ⟨uncut others, operator_comes_to same⟩

theorem operand_order_irrelevant_quotient : ∃ (env : Table String Formula)
    (operands others : List Formula),
    env = .ofList [("x", .operator .subtract [.reference "y", .constant 3]), ("y", .constant 7),
      ("z", .operator .multiply [.reference "x", .constant 25])] ∧
    operands = [.reference "z", .reference "x", .reference "y"] ∧
    others = [.reference "z", .reference "y", .reference "x"] ∧
    Op.divide.Reorders operands others ∧
    ∀ list ∈ [operands, others], ∀ limit,
      valueWithin env.get? limit (.operator .divide list) = .error .tooDeep ∨
      (valueWithin env.get? limit (.operator .divide list)).toOption = some (.number 3) := by
  let env : Table String Formula :=
    .ofList [("x", .operator .subtract [.reference "y", .constant 3]), ("y", .constant 7),
      ("z", .operator .multiply [.reference "x", .constant 25])]
  let operands : List Formula := [.reference "z", .reference "x", .reference "y"]
  let others : List Formula := [.reference "z", .reference "y", .reference "x"]
  have reorders : Op.divide.Reorders operands others := .rest (by decide) (.swap _ _ [])
  obtain ⟨answer, each⟩ := operand_order_irrelevant env reorders
  have done : valueWithin env.get? 7 (.operator .divide operands) = .ok (.number 3) := by decide
  have found : answer.map Value.number = some (.number 3) := by
    rcases (each operands List.mem_cons_self).2 7 with cut | same
    · rw [done] at cut
      cases cut
    · rw [← same, done]
      rfl
  refine ⟨env, operands, others, rfl, rfl, rfl, reorders, fun list member limit => ?_⟩
  rw [← found]
  exact (each list member).2 limit

end FormulaGrid
