/-!
The reals that round to a floating-point number form a span that ends halfway to its neighbours and
holds its ends when the mantissa is even. The shortest decimal is the point of the span on the
coarsest decimal grid that has one: the nearer point if there are two, and the one with the even
digit if both are equally near. Everything is counted in units of the last place.
-/

namespace FormulaGrid.Text

/-- The reals that round to a number, in units of `1 / 10 ^ places`. -/
structure Span where
  low : Nat
  value : Nat
  high : Nat
  places : Nat
  isClosed : Bool

namespace Span

/-- The span of the finite number of 64 bits with the given exponent and fraction fields, in quarters of a
unit of the mantissa. The gap below is half as wide where the exponent changes. -/
def ofFields (exponent fraction : Nat) : Span :=
  let mantissa := if exponent = 0 then fraction else Nat.pow 2 52 + fraction
  let below := if fraction = 0 ∧ 1 < exponent then 1 else 2
  let scale := if exponent = 0 then 1 else exponent
  let quarter := if scale ≤ 1077 then Nat.pow 5 (1077 - scale) else Nat.pow 2 (scale - 1077)
  { low := (4 * mantissa - below) * quarter
    value := 4 * mantissa * quarter
    high := (4 * mantissa + 2) * quarter
    places := 1077 - scale
    isClosed := mantissa % 2 = 0 }

def has (s : Span) (n : Nat) : Bool :=
  if s.isClosed then s.low ≤ n && n ≤ s.high else s.low < n && n < s.high

def neighbours (s : Span) (step : Nat) : List Nat :=
  let steps := s.value / step
  let down := steps * step
  let up := down + step
  if 2 * s.value < down + up ∨ 2 * s.value = down + up ∧ steps % 2 = 0 then [down, up]
  else [up, down]

/-- The point of the span on the coarsest grid that has one, of all grids not coarser than the first
digit of the number. -/
def onCoarsestGrid? (s : Span) : Option Nat :=
  (List.range (Nat.toDigits 10 s.value).length).reverse.findSome? fun zeros =>
    (s.neighbours (Nat.pow 10 zeros)).find? s.has

def shortest (s : Span) : Nat :=
  s.onCoarsestGrid?.getD s.value

theorem has_shortest {s : Span} (self : s.has s.value = true) : s.has s.shortest = true := by
  rw [shortest]
  cases found : s.onCoarsestGrid? with
  | none => exact self
  | some n =>
      obtain ⟨zeros, -, hit⟩ := List.exists_of_findSome?_eq_some found
      exact List.find?_some hit

theorem has_value_ofFields (exponent fraction : Nat) :
    (ofFields exponent fraction).has (ofFields exponent fraction).value = true := by
  simp only [ofFields]
  generalize (if exponent = 0 then fraction else Nat.pow 2 52 + fraction) = mantissa
  generalize width : (if fraction = 0 ∧ 1 < exponent then 1 else 2) = below
  generalize (if exponent = 0 then 1 else exponent) = scale
  generalize unit : (if scale ≤ 1077 then Nat.pow 5 (1077 - scale)
    else Nat.pow 2 (scale - 1077)) = quarter
  have wide : 0 < below := by
    rw [← width]
    split <;> decide
  have positive : 0 < quarter := by
    rw [← unit]
    split <;> exact Nat.pow_pos (by decide)
  unfold has
  by_cases even : mantissa % 2 = 0
  · simp only [even, decide_true, if_true, Bool.and_eq_true, decide_eq_true_eq]
    exact ⟨Nat.mul_le_mul_right _ (Nat.sub_le _ _), Nat.mul_le_mul_right _ (Nat.le_add_right _ _)⟩
  · simp only [even, decide_false, Bool.false_eq_true, if_false, Bool.and_eq_true, decide_eq_true_eq]
    -- an odd mantissa is not zero, so there is room below the number
    exact ⟨Nat.mul_lt_mul_of_pos_right (by omega) positive,
      Nat.mul_lt_mul_of_pos_right (by omega) positive⟩

/-- The shortest decimal of a number rounds to that number. -/
theorem has_shortest_ofFields (exponent fraction : Nat) :
    (ofFields exponent fraction).has (ofFields exponent fraction).shortest = true :=
  has_shortest (has_value_ofFields exponent fraction)

end Span

end FormulaGrid.Text
