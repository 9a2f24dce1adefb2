import FormulaGrid.Operator
import Mathlib.Algebra.BigOperators.Ring.List
import Mathlib.Algebra.Order.Ring.Int

namespace FormulaGrid.Op

/-! ## Quotients -/

def IsQuotient (dividend divisor quotient : Int) : Prop :=
  ∃ rest, dividend = quotient * divisor + rest ∧ rest.natAbs < divisor.natAbs ∧
    (rest = 0 ∨ rest.sign = dividend.sign)

variable {dividend divisor : Int}

theorem isQuotient_tdiv (nonzero : divisor ≠ 0) :
    IsQuotient dividend divisor (dividend.tdiv divisor) := by
  refine ⟨dividend.tmod divisor, (Int.tdiv_mul_add_tmod dividend divisor).symm, ?_, ?_⟩
  · rw [Int.natAbs_tmod]
    exact Nat.mod_lt _ (Int.natAbs_pos.mpr nonzero)
  · by_cases divides : divisor ∣ dividend
    · exact .inl (Int.tmod_eq_zero_of_dvd divides)
    · exact .inr (by rw [Int.sign_tmod, if_neg divides])

theorem IsQuotient.eq_tdiv {q : Int} (quotient : IsQuotient dividend divisor q) :
    q = dividend.tdiv divisor := by
  obtain ⟨rest, split, small, sign⟩ := quotient
  have nonzero : divisor ≠ 0 := by
    rintro rfl
    exact Nat.not_lt_zero _ small
  have split : rest + divisor * q = dividend := by
    rw [split, Int.mul_comm, Int.add_comm]
  rcases Int.le_total 0 dividend with nonneg | nonpos
  · have leftover : 0 ≤ rest := by
      rcases sign with rfl | same
      · exact Int.le_refl 0
      · exact Int.sign_nonneg_iff.mp (same ▸ Int.sign_nonneg_iff.mpr nonneg)
    exact ((Int.tdiv_tmod_unique nonneg nonzero).mpr ⟨split, leftover, by omega⟩).1.symm
  · have leftover : rest ≤ 0 := by
      rcases sign with rfl | same
      · exact Int.le_refl 0
      · exact Int.sign_nonpos_iff.mp (same ▸ Int.sign_nonpos_iff.mpr nonpos)
    exact ((Int.tdiv_tmod_unique' nonpos nonzero).mpr ⟨split, by omega, leftover⟩).1.symm

theorem isQuotient_iff {q : Int} (nonzero : divisor ≠ 0) :
    IsQuotient dividend divisor q ↔ q = dividend.tdiv divisor := by
  refine ⟨IsQuotient.eq_tdiv, ?_⟩
  rintro rfl
  exact isQuotient_tdiv nonzero

/-! ## One divisor after the other -/

theorem tdiv_tdiv (a b c : Int) : (a.tdiv b).tdiv c = a.tdiv (b * c) := by
  have magnitudes (m n k : Nat) : ((m : Int).tdiv n).tdiv k = (m : Int).tdiv (n * k) := by
    rw [← Int.ofNat_tdiv, ← Int.ofNat_tdiv, Nat.div_div_eq_div_mul, ← Int.natCast_mul,
      Int.ofNat_tdiv]
  obtain ⟨m, rfl | rfl⟩ := a.eq_nat_or_neg <;> obtain ⟨n, rfl | rfl⟩ := b.eq_nat_or_neg <;>
    obtain ⟨k, rfl | rfl⟩ := c.eq_nat_or_neg <;>
    simp only [Int.neg_tdiv, Int.tdiv_neg, Int.neg_mul, Int.mul_neg, Int.neg_neg, magnitudes]

theorem foldlM_quotient (dividend : Int) (divisors : List Int) :
    divisors.foldlM quotient dividend =
      if 0 ∈ divisors then .error .divisionByZero else .ok (dividend.tdiv divisors.prod) := by
  induction divisors generalizing dividend with
  | nil => simp [pure, Except.pure]
  | cons divisor divisors ih =>
      rw [List.foldlM_cons, quotient]
      by_cases zero : divisor = 0
      · simp [zero, bind, Except.bind]
      · rw [if_neg zero]
        show divisors.foldlM quotient (dividend.tdiv divisor) = _
        simp [ih, tdiv_tdiv, Ne.symm zero]

theorem apply_divide (dividend : Int) (divisors : List Int) :
    divide.apply (dividend :: divisors) =
      if 0 ∈ divisors then .error .divisionByZero else .ok (dividend.tdiv divisors.prod) :=
  foldlM_quotient dividend divisors

/-- Dividing by several numbers fails with a division by zero exactly if one of them is zero, and
otherwise yields the one quotient by their product. -/
theorem chained_division (dividend : Int) (divisors : List Int) :
    (applySymbol "/" (dividend :: divisors) = .error (.rule .divisionByZero) ↔ 0 ∈ divisors) ∧
    ((∃ q, applySymbol "/" (dividend :: divisors) = .ok q ∧
      ∀ p, IsQuotient dividend divisors.prod p ↔ p = q) ↔ 0 ∉ divisors) := by
  have applied : applySymbol "/" (dividend :: divisors) =
      (divide.apply (dividend :: divisors)).mapError .rule := rfl
  rw [applied, apply_divide]
  by_cases zero : 0 ∈ divisors
  · simp [zero, Except.mapError]
  · simp [zero, Except.mapError, isQuotient_iff (List.prod_ne_zero zero)]

example : divide.apply [-7, 2, -2] = .ok 1 := by decide

/-! ## Numbers in another order -/

/-- The same operands in an order that the rule of an operator does not tell apart: for `+`, `*` and
`=` any order, and for `-` and `/` any order behind the first operand. -/
inductive Reorders {α : Type} (op : Op) : List α → List α → Prop
  | all {xs ys : List α} : op ∈ [add, multiply, equal] → xs.Perm ys → Reorders op xs ys
  | rest {first : α} {xs ys : List α} : op ∈ [subtract, divide] → xs.Perm ys →
      Reorders op (first :: xs) (first :: ys)

theorem Reorders.symm {α : Type} {op : Op} {xs ys : List α} (reorders : op.Reorders xs ys) :
    op.Reorders ys xs := by
  cases reorders with
  | all symmetric perm => exact .all symmetric perm.symm
  | rest starts perm => exact .rest starts perm.symm

variable {op : Op} {numbers others : List Int}

theorem all_eq_first_iff {first : Int} {rest : List Int} :
    rest.all (· = first) = true ↔ ∀ m ∈ first :: rest, ∀ n ∈ first :: rest, m = n := by
  simp only [List.all_eq_true, decide_eq_true_eq]
  constructor
  · intro same m memberM n memberN
    have first_eq : ∀ k ∈ first :: rest, k = first := List.forall_mem_cons.mpr ⟨rfl, same⟩
    rw [first_eq m memberM, first_eq n memberN]
  · intro same n member
    exact same n (List.mem_cons_of_mem first member) first List.mem_cons_self

theorem apply_equal_perm (perm : numbers.Perm others) : equal.apply numbers = equal.apply others := by
  cases numbers with
  | nil => rw [perm.nil_eq]
  | cons first rest =>
      cases others with
      | nil => exact absurd perm.eq_nil (List.cons_ne_nil first rest)
      | cons next others =>
          have same : rest.all (· = first) = others.all (· = next) := by
            rw [Bool.eq_iff_iff, all_eq_first_iff, all_eq_first_iff]
            simp only [perm.mem_iff]
          rw [apply, apply, same]

theorem apply_subtract_perm {first : Int} (perm : numbers.Perm others) :
    subtract.apply (first :: numbers) = subtract.apply (first :: others) := by
  have commutes : RightCommutative fun a b : Int => a - b := ⟨sub_right_comm⟩
  rw [apply, apply, perm.foldl_eq]

theorem apply_divide_perm {first : Int} (perm : numbers.Perm others) :
    divide.apply (first :: numbers) = divide.apply (first :: others) := by
  rw [apply_divide, apply_divide, perm.prod_eq]
  simp only [perm.mem_iff]

theorem Reorders.apply_eq (reorders : op.Reorders numbers others) :
    op.apply numbers = op.apply others := by
  cases reorders with
  | all symmetric perm =>
      simp only [List.mem_cons, List.not_mem_nil, or_false] at symmetric
      rcases symmetric with rfl | rfl | rfl
      · rw [apply, apply, perm.foldl_eq]
      · rw [apply, apply, perm.foldl_eq]
      · exact apply_equal_perm perm
  | rest starts perm =>
      simp only [List.mem_cons, List.not_mem_nil, or_false] at starts
      rcases starts with rfl | rfl
      · exact apply_subtract_perm perm
      · exact apply_divide_perm perm

end FormulaGrid.Op
