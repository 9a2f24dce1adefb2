import FormulaGrid.Proofs.Evaluation.Checked
import FormulaGrid.Proofs.Evaluation.Solutions

namespace FormulaGrid

variable {bindings : Bindings} {limit : Nat} {f result : Formula} {value : Value}

theorem checkedValueWithin_eq_ok_iff : checkedValueWithin bindings limit f = .ok result ↔
    ∃ value, valueWithin bindings limit f = .ok value ∧ result = value.formula := by
  rw [checkedValueWithin_eq]
  cases valueWithin bindings limit f with
  | error e => simp [Except.map, Except.mapError]
  | ok value => simp [Except.map, Except.mapError, eq_comm]

theorem eq_none_of_unbound {name : String}
    (done : valueWithin bindings limit f = .ok (.unbound name)) : bindings name = none := by
  obtain ⟨deep, plain⟩ := exists_plain_of_ok done
  exact (unbound_of_ok plain).2

theorem exists_number_of_operator {op : Op} {operands : List Formula}
    (done : valueWithin bindings limit (.operator op operands) = .ok value) :
    ∃ n, value = .number n := by
  obtain ⟨_, n, -, -, number⟩ := hasValue_operator_iff.mp (hasValue_of_ok done)
  exact ⟨n, number⟩

theorem valueWithin_formula (free : ∀ name, value = .unbound name → bindings name = none)
    (calls : Nat) : valueWithin bindings (calls + 1) value.formula = .ok value := by
  cases value with
  | empty => rfl
  | number n => rfl
  | unbound name =>
      rw [Value.formula, valueWithin, reduce, free name rfl]
      rfl

/-- What is left of a formula is empty, an integer or a name that is bound to nothing, and an integer if
the formula is an operator. Evaluated again, with one call or more, it is left as it is. -/
theorem results_are_normal (done : checkedValueWithin bindings limit f = .ok result) :
    (∃ value, valueWithin bindings limit f = .ok value ∧ result = value.formula) ∧
    (result = .empty ∨ (∃ n, result = .constant n) ∨
      ∃ name, result = .reference name ∧ bindings name = none) ∧
    (∀ op operands, f = .operator op operands → ∃ n, result = .constant n) ∧
    ∀ calls, checkedValueWithin bindings (calls + 1) result = .ok result := by
  obtain ⟨value, valued, rfl⟩ := checkedValueWithin_eq_ok_iff.mp done
  have free : ∀ name, value = .unbound name → bindings name = none := by
    rintro name rfl
    exact eq_none_of_unbound valued
  refine ⟨⟨value, valued, rfl⟩, ?_, ?_, fun calls => ?_⟩
  · cases value with
    | empty => exact .inl rfl
    | number n => exact .inr (.inl ⟨n, rfl⟩)
    | unbound name => exact .inr (.inr ⟨name, rfl, free name rfl⟩)
  · rintro op operands rfl
    obtain ⟨n, rfl⟩ := exists_number_of_operator valued
    exact ⟨n, rfl⟩
  · exact checkedValueWithin_eq_ok_iff.mpr ⟨value, valueWithin_formula free calls, rfl⟩

theorem results_are_normal_chain : ∃ env : Table String Formula,
    env = .ofList [("x", .reference "y"), ("y", .reference "z"),
      ("sum", .operator .add [.reference "m", .reference "n"]),
      ("m", .constant 4), ("n", .operator .multiply [.reference "m", .constant 5])] ∧
    checkedValueWithin env.get? 3 (.reference "x") = .ok (.reference "z") ∧ env.get? "z" = none ∧
    checkedValueWithin env.get? 1 (.reference "z") = .ok (.reference "z") ∧
    ∃ n, checkedValueWithin env.get? 6 (.operator .subtract [.reference "sum", .reference "m"]) =
      .ok (.constant n) := by
  let env : Table String Formula := .ofList [("x", .reference "y"), ("y", .reference "z"),
    ("sum", .operator .add [.reference "m", .reference "n"]),
    ("m", .constant 4), ("n", .operator .multiply [.reference "m", .constant 5])]
  have chain : checkedValueWithin env.get? 3 (.reference "x") = .ok (.reference "z") := rfl
  have difference : checkedValueWithin env.get? 6
      (.operator .subtract [.reference "sum", .reference "m"]) = .ok (.constant 20) := rfl
  obtain ⟨-, normal, -, again⟩ := results_are_normal chain
  obtain ⟨-, -, number, -⟩ := results_are_normal difference
  refine ⟨env, rfl, chain, ?_, again 0, ?_⟩
  · rcases normal with empty | ⟨n, constant⟩ | ⟨name, reference, free⟩
    · cases empty
    · cases constant
    · cases reference
      exact free
  · obtain ⟨n, constant⟩ := number _ _ rfl
    exact ⟨n, by rw [difference, constant]⟩

end FormulaGrid
