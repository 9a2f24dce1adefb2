import FormulaGrid.Formula.Pieces

namespace FormulaGrid

namespace Text

def Ranges.apart (one other : Ranges) : Bool :=
  one.all fun r => other.all fun s => r.2 < s.1 || s.2 < r.1

theorem Ranges.has_eq_false_of_apart {one other : Ranges} (apart : one.apart other = true) {n : Nat}
    (member : one.has n = true) : other.has n = false := by
  rw [← Bool.not_eq_true]
  intro both
  obtain ⟨r, first, low, high⟩ := exists_of_has member
  obtain ⟨s, second, low', high'⟩ := exists_of_has both
  simp only [Ranges.apart, List.all_eq_true, Bool.or_eq_true, decide_eq_true_eq] at apart
  have outside := apart r first s second
  omega

variable {c : Char}

theorem isBlank_of_isAlphanumeric (h : isAlphanumeric c = true) : isBlank c = false := by
  have apart : Ranges.apart alphanumericRanges blankRanges = true := by decide +kernel
  exact Ranges.has_eq_false_of_apart apart h

theorem isDigit_iff : c.isDigit = true ↔ '0'.toNat ≤ c.toNat ∧ c.toNat ≤ '9'.toNat := by
  rw [Char.isDigit, Bool.and_eq_true, decide_eq_true_eq, decide_eq_true_eq]
  rfl

theorem isAlphanumeric_of_isDigit (h : c.isDigit = true) : isAlphanumeric c = true := by
  obtain ⟨rest, start⟩ : ∃ rest, alphanumericRanges = (0x30, 0x39) :: rest := ⟨_, rfl⟩
  have code : 48 ≤ c.toNat ∧ c.toNat ≤ 57 := isDigit_iff.mp h
  rw [isAlphanumeric, start, Ranges.has_cons, if_pos code.2, decide_eq_true_eq]
  exact code.1

theorem isBlank_of_isDigit (h : c.isDigit = true) : isBlank c = false :=
  isBlank_of_isAlphanumeric (isAlphanumeric_of_isDigit h)

end Text

open Text

theorem Op.isBlank_symbol (op : Op) : isBlank op.symbol = false := by
  cases op <;> rfl

theorem Op.isDigit_symbol (op : Op) : op.symbol.isDigit = false := by
  cases op <;> rfl

theorem Op.isAlphanumeric_symbol (op : Op) : isAlphanumeric op.symbol = false := by
  cases op <;> rfl

theorem isSign_iff {c : Char} : isSign c = true ↔ ∃ op : Op, op.symbol = c := by
  simp [isSign, Op.mem_all]

theorem isSign_symbol (op : Op) : isSign op.symbol = true :=
  isSign_iff.mpr ⟨op, rfl⟩

theorem isBlank_of_isSign {c : Char} (h : isSign c = true) : isBlank c = false := by
  obtain ⟨op, rfl⟩ := isSign_iff.mp h
  exact op.isBlank_symbol

end FormulaGrid
