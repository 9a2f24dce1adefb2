import FormulaGrid.Proofs.Text.Integers
import Mathlib.Data.List.Induction
import Mathlib.Data.Nat.Digits.Defs

namespace FormulaGrid.Text

variable {digits : List Char}

theorem digitChar_of_isDigit {c : Char} (digit : c.isDigit = true) :
    c.toNat - '0'.toNat < 10 ∧ Nat.digitChar (c.toNat - '0'.toNat) = c := by
  have code : 48 ≤ c.toNat ∧ c.toNat ≤ 57 := isDigit_iff.mp digit
  have zero : '0'.toNat = 48 := rfl
  have small : c.toNat - '0'.toNat < 10 := by omega
  refine ⟨small, Char.toNat_inj.mp ?_⟩
  rw [Nat.toNat_digitChar_of_lt_ten small]
  omega

theorem ofDigitChars_append_singleton (digits : List Char) (c : Char) :
    Nat.ofDigitChars 10 (digits ++ [c]) 0 =
      10 * Nat.ofDigitChars 10 digits 0 + (c.toNat - '0'.toNat) := by
  rw [Nat.ofDigitChars_append, Nat.ofDigitChars_cons, Nat.ofDigitChars_nil]

theorem ofDigitChars_eq_ofDigits (digits : List Char) : Nat.ofDigitChars 10 digits 0 =
    Nat.ofDigits 10 (digits.reverse.map fun c => c.toNat - '0'.toNat) := by
  induction digits using List.reverseRecOn with
  | nil => rfl
  | append_singleton digits c ih =>
      rw [ofDigitChars_append_singleton, ih, List.reverse_append, List.reverse_singleton,
        List.singleton_append, List.map_cons, Nat.ofDigits_cons, Nat.add_comm]

theorem toDigits_append {n : Nat} (positive : 0 < n) (all : ∀ c ∈ digits, c.isDigit = true) :
    Nat.toDigits 10 n ++ digits = Nat.toDigits 10 (Nat.ofDigitChars 10 digits n) := by
  induction digits generalizing n with
  | nil => rw [List.append_nil, Nat.ofDigitChars_nil]
  | cons c rest ih =>
      obtain ⟨first, others⟩ := List.forall_mem_cons.mp all
      obtain ⟨small, same⟩ := digitChar_of_isDigit first
      rw [Nat.ofDigitChars_cons, ← ih (by omega) others,
        ← Nat.toDigits_append_toDigits (by decide) positive small,
        Nat.toDigits_of_lt_base small, same, List.append_assoc, List.singleton_append]

theorem toDigits_ofDigitChars (row : isDigits digits = true)
    (plain : ∀ rest, digits = '0' :: rest → rest = []) :
    Nat.toDigits 10 (Nat.ofDigitChars 10 digits 0) = digits := by
  obtain ⟨nonempty, all⟩ := isDigits_iff.mp row
  cases digits with
  | nil => exact absurd rfl nonempty
  | cons c rest =>
      obtain ⟨first, others⟩ := List.forall_mem_cons.mp all
      obtain ⟨small, same⟩ := digitChar_of_isDigit first
      rw [Nat.ofDigitChars_cons, Nat.mul_zero, Nat.zero_add]
      rcases Nat.eq_zero_or_pos (c.toNat - '0'.toNat) with zero | positive
      · have first : c = '0' := by rw [← same, zero]; rfl
        rw [zero, plain rest (by rw [first]), first]
        rfl
      · rw [← toDigits_append positive others, Nat.toDigits_of_lt_base small, same,
          List.singleton_append]

theorem toDigits_ofDigitChars_iff (row : isDigits digits = true) :
    Nat.toDigits 10 (Nat.ofDigitChars 10 digits 0) = digits ↔
      ∀ rest, digits = '0' :: rest → rest = [] := by
  refine ⟨?_, toDigits_ofDigitChars row⟩
  rintro same rest rfl
  by_contra more
  -- the digits behind the zero are as many as the number needs
  have small : Nat.ofDigitChars 10 ('0' :: rest) 0 < 10 ^ rest.length := by
    rw [Nat.ofDigitChars_cons]
    exact ofDigitChars_lt fun c member => (isDigits_iff.mp row).2 c (List.mem_cons_of_mem _ member)
  have short := (Nat.length_toDigits_le_iff (by decide) (List.length_pos_iff.mpr more)).mpr small
  rw [same, List.length_cons] at short
  omega

end FormulaGrid.Text
