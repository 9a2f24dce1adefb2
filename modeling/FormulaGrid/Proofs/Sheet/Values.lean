import FormulaGrid.Proofs.Evaluation.Solutions
import FormulaGrid.Proofs.Sheet.Names
import FormulaGrid.Sheet.Edit

namespace FormulaGrid.Sheet
variable {s : Sheet} {c : Location} {value : Value} {limit : Nat}

theorem hasValue_formula (inside : s.Contains c) (done : s.evaluate c limit = .ok value) :
    (s.formula c).HasValue s.bindings value :=
  ((hasValue_reference_iff (bindings_name inside)).mp (hasValue_of_ok done)).1

/-- A formula that has a value has it again over the values of the names that it reaches, so the value
of a cell is its formula over the values that other cells have by themselves. -/
theorem values_solve_formulas :
    (∀ (bindings : Bindings) (f : Formula) (limit : Nat) (value : Value),
      valueWithin bindings limit f = .ok value →
      (∀ name, bindings.Reaches f name → (bindings name).isSome →
        ∃ inside, (Formula.reference name).HasValue bindings inside) ∧
      (∃ solved : Bindings, solved.Solves bindings f) ∧
      ∀ solved : Bindings, solved.Solves bindings f →
        ∀ calls, f.height < calls → valueWithin solved calls f = .ok value) ∧
    ∀ (s : Sheet) (c : Location) (limit : Nat) (value : Value), s.Contains c →
      s.evaluate c limit = .ok value →
      (∃ solved : Bindings, solved.Solves s.bindings (s.formula c)) ∧
      ∀ solved : Bindings, solved.Solves s.bindings (s.formula c) →
        (∀ d limit inside, s.Contains d → s.bindings.Reaches (s.formula c) d.name →
          s.evaluate d limit = .ok inside → solved d.name = some inside.formula) ∧
        ∀ calls, (s.formula c).height < calls →
          valueWithin solved calls (s.formula c) = .ok value := by
  constructor
  · intro bindings f limit value done
    have settled := hasValue_of_ok done
    exact ⟨fun name reached bound => hasValue_of_reaches settled reached bound,
      settled.exists_solves, fun solved solves calls enough => settled.over_values solves enough⟩
  · intro s c limit value inside done
    have settled := hasValue_formula inside done
    refine ⟨settled.exists_solves, fun solved solves =>
      ⟨fun d limit other present reached alone => ?_,
        fun calls enough => settled.over_values solves enough⟩⟩
    obtain ⟨found, known, binding⟩ := solves.bound d.name reached (isSome_bindings_name present)
    rw [binding, known.unique (hasValue_of_ok alone)]

theorem values_solve_formulas_builtin :
    (∃ s : Sheet, ∃ solved : Bindings, s.Contains ⟨0, 2⟩ ∧
      s.formula ⟨0, 2⟩ = .operator .multiply [.reference "B0", .reference "A0"] ∧
      s.evaluate ⟨0, 2⟩ callLimit = .ok (.number 21) ∧
      solved.Solves s.bindings (s.formula ⟨0, 2⟩) ∧
      solved "A0" = some (.constant 3) ∧ solved "B0" = some (.constant 7) ∧
      valueWithin solved 3 (s.formula ⟨0, 2⟩) = .ok (.number 21)) ∧
    ∃ solved : Bindings,
      solved.Solves (Table.ofList [("x", .reference "y"), ("y", .reference "z")]).get?
        (.reference "x") ∧
      valueWithin solved 2 (.reference "x") = .ok (.unbound "z") := by
  obtain ⟨general, cells⟩ := values_solve_formulas
  constructor
  · obtain ⟨s, first, second, third, formula, reads, one, two, three⟩ : ∃ s : Sheet,
        s.Contains ⟨0, 0⟩ ∧ s.Contains ⟨0, 1⟩ ∧ s.Contains ⟨0, 2⟩ ∧
        s.formula ⟨0, 2⟩ = .operator .multiply [.reference "B0", .reference "A0"] ∧
        (∀ name ∈ ["A0", "B0"], name ∈ (s.formula ⟨0, 2⟩).names) ∧
        s.evaluate ⟨0, 0⟩ callLimit = .ok (.number 3) ∧
        s.evaluate ⟨0, 1⟩ callLimit = .ok (.number 7) ∧
        s.evaluate ⟨0, 2⟩ callLimit = .ok (.number 21) := by
      obtain ⟨fresh, created⟩ : ∃ fresh : Sheet, create .stock
          (.ofList [("twice", .operator .multiply [.reference "A0", .constant 2])]) .empty 1 3 =
            .ok fresh := ⟨_, rfl⟩
      refine ⟨fresh.run [.enter 0 0 "3", .enter 0 1 "twice + 1", .enter 0 2 "B0 * A0"], ?_⟩
      cases created
      decide +kernel
    obtain ⟨⟨solved, solves⟩, solution⟩ := cells s ⟨0, 2⟩ callLimit _ third three
    obtain ⟨computed, again⟩ := solution solved solves
    refine ⟨s, solved, third, formula, three, solves, ?_, ?_, again 3 ?_⟩
    · exact computed ⟨0, 0⟩ callLimit (.number 3) first (.here (reads "A0" (by simp))) one
    · exact computed ⟨0, 1⟩ callLimit (.number 7) second (.here (reads "B0" (by simp))) two
    · rw [formula]
      decide
  · obtain ⟨-, ⟨solved, solves⟩, solution⟩ := general
      (Table.ofList [("x", .reference "y"), ("y", .reference "z")]).get? (.reference "x") 4
      (.unbound "z") (by decide)
    exact ⟨solved, solves, solution solved solves 2 (by decide)⟩

end FormulaGrid.Sheet
