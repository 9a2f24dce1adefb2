import FormulaGrid.Proofs.Outcomes
import FormulaGrid.Proofs.Text.Classes
import Mathlib.Algebra.Group.Nat.Defs
import Mathlib.Data.List.Basic

namespace FormulaGrid.Text

variable {text : List Char} {n : Int}

/-! ## Digits -/

theorem isDigits_iff : isDigits text = true ↔ text ≠ [] ∧ ∀ c ∈ text, c.isDigit = true := by
  simp [isDigits]

theorem isDigits_toDigits (n : Nat) : isDigits (Nat.toDigits 10 n) = true :=
  isDigits_iff.mpr ⟨Nat.toDigits_ne_nil,
    fun _ member => Nat.isDigit_of_mem_toDigits (by decide) (by decide) member⟩

theorem ofDigitChars_lt (digits : ∀ c ∈ text, c.isDigit = true) :
    Nat.ofDigitChars 10 text 0 < 10 ^ text.length := by
  induction text with
  | nil => simp
  | cons c rest ih =>
      have first : c.toNat - '0'.toNat ≤ 9 := by
        have code : 48 ≤ c.toNat ∧ c.toNat ≤ 57 := isDigit_iff.mp (digits c List.mem_cons_self)
        have zero : '0'.toNat = 48 := rfl
        omega
      have later := ih fun x member => digits x (List.mem_cons_of_mem c member)
      have scaled := Nat.mul_le_mul_left (10 ^ rest.length) first
      rw [Nat.ofDigitChars_cons, Nat.ofDigitChars_eq_ofDigitChars_zero, Nat.mul_zero, Nat.zero_add,
        List.length_cons, Nat.pow_succ]
      omega

theorem readDigits_eq_ok {value : Nat} : readDigits text = .ok value ↔
    text.length ≤ maxDigits ∧ Nat.ofDigitChars 10 text 0 = value := by
  unfold readDigits
  split
  · rename_i short
    simp [short]
  · rename_i long
    simp [long]

theorem maxDigits_pos : 0 < maxDigits := by
  decide

theorem length_toDigits_of_readDigits (digits : isDigits text = true) {value : Nat}
    (read : readDigits text = .ok value) : (Nat.toDigits 10 value).length ≤ maxDigits := by
  obtain ⟨short, rfl⟩ := readDigits_eq_ok.mp read
  rw [Nat.length_toDigits_le_iff (by decide) maxDigits_pos]
  have small := ofDigitChars_lt (isDigits_iff.mp digits).2
  exact Nat.lt_of_lt_of_le small (Nat.pow_le_pow_right (by decide) short)

/-! ## Signs -/

def signed (sign : List Char) (magnitude : Nat) : Int :=
  if sign = ['-'] then -magnitude else magnitude

theorem natAbs_signed (sign : List Char) (magnitude : Nat) :
    (signed sign magnitude).natAbs = magnitude := by
  unfold signed
  split <;> simp

theorem splitSign_of_isDigits (row : isDigits text = true) : splitSign text = (false, text) := by
  have all := (isDigits_iff.mp row).2
  unfold splitSign
  split
  · exact absurd (all '-' List.mem_cons_self) (by decide)
  · exact absurd (all '+' List.mem_cons_self) (by decide)
  · rfl

theorem readInteger?_signed {sign digits : List Char} (row : isDigits digits = true)
    (optional : sign = [] ∨ sign = ['+'] ∨ sign = ['-']) :
    readInteger? (sign ++ digits) = some ((readDigits digits).map (signed sign)) := by
  have minus : signed ['-'] = fun magnitude : Nat => -(magnitude : Int) := rfl
  have plus : signed ['+'] = fun magnitude : Nat => (magnitude : Int) := rfl
  have none : signed [] = fun magnitude : Nat => (magnitude : Int) := rfl
  rcases optional with rfl | rfl | rfl
  · simp [readInteger?, splitSign_of_isDigits row, row, none]
  · simp [readInteger?, splitSign, row, plus]
  · simp [readInteger?, splitSign, row, minus]

theorem exists_append_splitSign (text : List Char) : ∃ sign, text = sign ++ (splitSign text).2 ∧
    (sign = [] ∨ sign = ['+'] ∨ sign = ['-']) := by
  unfold splitSign
  split
  · exact ⟨['-'], rfl, .inr (.inr rfl)⟩
  · exact ⟨['+'], rfl, .inr (.inl rfl)⟩
  · exact ⟨[], rfl, .inl rfl⟩

theorem exists_digits_of_readInteger? {result : Except DigitLimit Int}
    (read : readInteger? text = some result) : ∃ sign digits, text = sign ++ digits ∧
      (sign = [] ∨ sign = ['+'] ∨ sign = ['-']) ∧ isDigits digits = true ∧
        result = (readDigits digits).map (signed sign) := by
  obtain ⟨sign, split, optional⟩ := exists_append_splitSign text
  have row : isDigits (splitSign text).2 = true := by
    unfold readInteger? at read
    by_contra other
    simp [other] at read
  refine ⟨sign, _, split, optional, row, ?_⟩
  rw [split, readInteger?_signed row optional] at read
  exact (Option.some.inj read).symm

theorem exists_digits_of_readInteger?_ok (read : readInteger? text = some (.ok n)) :
    ∃ sign digits magnitude, text = sign ++ digits ∧ isDigits digits = true ∧
      readDigits digits = .ok magnitude ∧ n = signed sign magnitude := by
  obtain ⟨sign, digits, split, -, row, result⟩ := exists_digits_of_readInteger? read
  obtain ⟨magnitude, value, same⟩ := map_eq_ok.mp result.symm
  exact ⟨sign, digits, magnitude, split, row, value, same.symm⟩

theorem isDigits_of_readInteger? {before after : List Char} {c : Char}
    {result : Except DigitLimit Int} (read : readInteger? (before ++ c :: after) = some result)
    (other : c.isDigit = false) : before = [] ∧ isDigits after = true := by
  obtain ⟨sign, digits, split, optional, row, -⟩ := exists_digits_of_readInteger? read
  have away : c ∉ digits := by
    intro within
    rw [(isDigits_iff.mp row).2 c within] at other
    cases other
  have behind (x : Char) (split : before ++ c :: after = x :: digits) :
      before = [] ∧ isDigits after = true := by
    cases before with
    | nil =>
        cases split
        exact ⟨rfl, row⟩
    | cons y before =>
        cases split
        exact absurd (by simp) away
  rcases optional with rfl | rfl | rfl
  · cases split
    exact absurd (by simp) away
  · exact behind '+' split
  · exact behind '-' split

theorem length_toDigits_of_readInteger? (read : readInteger? text = some (.ok n)) :
    (Nat.toDigits 10 n.natAbs).length ≤ maxDigits := by
  obtain ⟨sign, digits, magnitude, -, row, value, rfl⟩ := exists_digits_of_readInteger?_ok read
  rw [natAbs_signed]
  exact length_toDigits_of_readDigits row value

theorem minus_mem_of_readInteger? (read : readInteger? text = some (.ok n)) (negative : n < 0) :
    '-' ∈ text := by
  obtain ⟨sign, digits, magnitude, rfl, -, -, rfl⟩ := exists_digits_of_readInteger?_ok read
  unfold signed at negative
  split at negative
  · rename_i minus
    simp [minus]
  · omega

/-! ## Writing -/

theorem mem_integerText {c : Char} (member : c ∈ integerText n) :
    c.isDigit = true ∨ c = '-' ∧ n < 0 := by
  have digit (magnitude : Nat) (member : c ∈ Nat.toDigits 10 magnitude) : c.isDigit = true :=
    (isDigits_iff.mp (isDigits_toDigits magnitude)).2 c member
  cases n with
  | ofNat magnitude => exact .inl (digit magnitude member)
  | negSucc magnitude =>
      rcases List.mem_cons.mp member with rfl | member
      · exact .inr ⟨rfl, Int.negSucc_lt_zero magnitude⟩
      · exact .inl (digit _ member)

theorem length_toDigits_le_maxDigits_iff :
    (Nat.toDigits 10 n.natAbs).length ≤ maxDigits ↔ n.natAbs < Nat.pow 10 maxDigits := by
  rw [Nat.length_toDigits_le_iff (by decide) maxDigits_pos, Nat.pow_eq]

theorem writeInteger_of_length_le (short : (Nat.toDigits 10 n.natAbs).length ≤ maxDigits) :
    writeInteger n = .ok (integerText n) := by
  rw [writeInteger, if_pos (length_toDigits_le_maxDigits_iff.mp short)]

theorem writeInteger_eq_error_iff {limit : DigitLimit} : writeInteger n = .error limit ↔
    limit = .writing ∧ maxDigits < (Nat.toDigits 10 n.natAbs).length := by
  rw [← Nat.not_le, length_toDigits_le_maxDigits_iff, writeInteger]
  split
  · rename_i small
    simp only [reduceCtorEq, small, not_true_eq_false, and_false]
  · rename_i large
    simp only [Except.error.injEq, large, not_false_eq_true, and_true, eq_comm]

theorem readInteger?_integerText (short : (Nat.toDigits 10 n.natAbs).length ≤ maxDigits) :
    readInteger? (integerText n) = some (.ok n) := by
  have back (magnitude : Nat) (short : (Nat.toDigits 10 magnitude).length ≤ maxDigits) :
      readDigits (Nat.toDigits 10 magnitude) = .ok magnitude :=
    readDigits_eq_ok.mpr ⟨short, Nat.ofDigitChars_ten_toDigits⟩
  cases n with
  | ofNat magnitude =>
      have read := readInteger?_signed (isDigits_toDigits magnitude) (.inl rfl)
      rw [back magnitude short] at read
      exact read
  | negSucc magnitude =>
      have read := readInteger?_signed (isDigits_toDigits (magnitude + 1)) (.inr (.inr rfl))
      rw [back (magnitude + 1) short] at read
      exact read

end FormulaGrid.Text
