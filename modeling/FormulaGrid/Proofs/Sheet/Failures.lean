import FormulaGrid.Proofs.Evaluation.Failures
import FormulaGrid.Proofs.Ledger.Agreement

namespace FormulaGrid.Sheet
open Text

variable {s : Sheet} {l c : Location} {f : Formula} {cause : EvalError} {limit : Nat}

theorem wellFormed_bindings (builtins : Bindings.WellFormed s.builtins.get?)
    (cells : ∀ c, (s.formula c).WellFormed) : s.bindings.WellFormed := by
  intro name f found
  unfold bindings at found
  split at found
  · cases found
    exact cells _
  · exact builtins name f found

theorem wellFormed_install (formed : s.bindings.WellFormed) (inside : s.Contains l)
    (new : f.WellFormed) : (s.install l f).bindings.WellFormed := by
  intro name g found
  rw [bindings_install inside, Function.update_apply] at found
  split at found
  · cases found
    exact new
  · exact formed name g found

theorem isTypeError_of_evaluate (formed : s.bindings.WellFormed)
    (failed : s.evaluate c limit = .error cause) : cause.IsTypeError :=
  isTypeError_of_failed formed (.reference c.name_ne_empty) failed

theorem firstFailure?_eq (s : Sheet) (cells : List Location) (limit : Nat) :
    s.firstFailure? cells limit = cells.findSome? fun c => failure? (s.evaluate c limit) := by
  unfold firstFailure?
  congr 1
  funext c
  cases s.evaluate c limit <;> rfl

theorem firstFailure?_eq_some_iff {cells : List Location} :
    s.firstFailure? cells limit = some cause ↔ ∃ before c after, cells = before ++ c :: after ∧
      (∀ d ∈ before, s.evaluates d limit = true) ∧ s.evaluate c limit = .error cause := by
  rw [firstFailure?_eq, List.findSome?_eq_some_iff]
  simp only [failure?_eq_some_iff, failure?_eq_none_iff, evaluates_iff]
  exact exists_congr fun before => exists_congr fun c => exists_congr fun after =>
    and_congr_right fun _ => and_comm

theorem update_error_cases {e : EditError} (inside : s.Contains l)
    (failed : s.update l f limit = .error e) : ∃ before c after cause,
      l :: s.healthyReaders l limit = before ++ c :: after ∧
      (∀ d ∈ before, (s.install l f).evaluates d limit = true) ∧
      (s.install l f).evaluate c limit = .error cause ∧ e = s.reject l cause := by
  rw [update_of_contains inside] at failed
  split at failed
  · cases failed
  · rename_i cause first
    cases failed
    obtain ⟨before, c, after, split, earlier, stops⟩ := firstFailure?_eq_some_iff.mp first
    exact ⟨before, c, after, cause, split, earlier, stops, rfl⟩

/-- The cell holds a number with one digit too many when it is asked to read itself. The circle is
not reported, because the number cannot be. -/
theorem update_hides_cause : ∃ fresh s : Sheet,
    create .stock .empty .empty 1 1 = .ok fresh ∧
    fresh.update ⟨0, 0⟩ (.constant (Nat.pow 10 maxDigits)) callLimit = .ok s ∧
    (s.install ⟨0, 0⟩ (.reference "A0")).evaluate ⟨0, 0⟩ callLimit = .error (.circular "A0") ∧
    s.update ⟨0, 0⟩ (.reference "A0") callLimit = .error (.digits .writing) := by
  obtain ⟨fresh, created, inside, accepted, first, circle, unwritten⟩ : ∃ fresh : Sheet,
      create .stock .empty .empty 1 1 = .ok fresh ∧
      let s := fresh.install ⟨0, 0⟩ (.constant (Nat.pow 10 maxDigits))
      fresh.Contains ⟨0, 0⟩ ∧
        (∀ c ∈ ⟨0, 0⟩ :: fresh.healthyReaders ⟨0, 0⟩ callLimit, s.evaluates c callLimit = true) ∧
        (s.install ⟨0, 0⟩ (.reference "A0")).firstFailure?
          (⟨0, 0⟩ :: s.healthyReaders ⟨0, 0⟩ callLimit) callLimit = some (.circular "A0") ∧
        (s.install ⟨0, 0⟩ (.reference "A0")).evaluate ⟨0, 0⟩ callLimit =
          .error (.circular "A0") ∧
        (s.formula ⟨0, 0⟩).render = .error .writing :=
    ⟨_, rfl, by decide +kernel⟩
  refine ⟨fresh, _, created, update_eq_ok_iff.mpr ⟨inside, rfl, accepted⟩, circle, ?_⟩
  rw [update_of_contains (contains_install.mpr inside), first]
  simp only [reject, unwritten]

end FormulaGrid.Sheet
