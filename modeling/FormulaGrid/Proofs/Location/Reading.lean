import FormulaGrid.Location.Checked
import FormulaGrid.Proofs.Text.Digits

namespace FormulaGrid.Location
open Text

variable {text : String} {letter : Char} {digits : List Char} {column : Fin maxColumns}

theorem spells_iff : Spells text letter digits ↔
    text.toList = letter :: digits ∧ ('A' ≤ letter ∧ letter ≤ 'Z') ∧ isDigits digits = true := by
  have digit (c : Char) : c.isDigit = true ↔ '0' ≤ c ∧ c ≤ '9' := isDigit_iff
  simp only [isDigits_iff, digit]
  exact ⟨fun h => ⟨h.split, h.letter, h.nonempty, h.decimal⟩,
    fun ⟨split, letter, nonempty, decimal⟩ => ⟨split, letter, nonempty, decimal⟩⟩

theorem columnOf?_eq_some_iff : columnOf? letter = some column ↔
    ('A' ≤ letter ∧ letter ≤ 'Z') ∧ letter.toNat = 'A'.toNat + column.val := by
  have code : ('A' ≤ letter ∧ letter ≤ 'Z') ↔ 65 ≤ letter.toNat ∧ letter.toNat ≤ 90 := Iff.rfl
  have first : 'A'.toNat = 65 := rfl
  rw [code, first, columnOf?]
  split
  · rename_i upper
    simp only [Option.some.injEq, Fin.ext_iff, upper, true_and]
    omega
  · rename_i other
    simp only [reduceCtorEq, other, false_and]

theorem isSome_columnOf?_iff : (columnOf? letter).isSome ↔ 'A' ≤ letter ∧ letter ≤ 'Z' := by
  unfold columnOf?
  split
  · rename_i upper
    exact iff_of_true rfl upper
  · rename_i other
    exact iff_of_false nofun other

namespace Spells
variable (h : Spells text letter digits)
include h

theorem letterAndDigits? :
    letterAndDigits? text.toList = some (String.singleton letter, digits) := by
  obtain ⟨split, form⟩ := spells_iff.mp h
  rw [split]
  exact if_pos form

theorem parts? (named : columnOf? letter = some column) :
    parts? text.toList = some (column, digits) := by
  obtain ⟨split, -, row⟩ := spells_iff.mp h
  rw [split, Location.parts?, if_pos row, named, Option.map_some]

end Spells

theorem no_parts_of_other (other : ∀ letter digits, ¬Spells text letter digits) :
    letterAndDigits? text.toList = none ∧ parts? text.toList = none := by
  cases split : text.toList with
  | nil => exact ⟨rfl, rfl⟩
  | cons letter digits =>
      have fails : ¬(('A' ≤ letter ∧ letter ≤ 'Z') ∧ isDigits digits = true) :=
        fun form => other letter digits (spells_iff.mpr ⟨split, form⟩)
      refine ⟨if_neg fails, ?_⟩
      unfold parts?
      dsimp only
      split
      · rename_i row
        rw [Option.map_eq_none_iff, ← Option.not_isSome_iff_eq_none, isSome_columnOf?_iff]
        exact fun upper => fails ⟨upper, row⟩
      · rfl

theorem ofLetter?_singleton (named : columnOf? letter = some column) (row : Nat) :
    ofLetter? row (String.singleton letter) = .ok ⟨row, column⟩ := by
  have one : (String.singleton letter).toList = [letter] := by simp
  have positive : ¬(row : Int) < 0 := by omega
  have small : 0 ≤ (column.val : Int) ∧ (column.val : Int) < maxColumns := by omega
  simp only [ofLetter?, one, named, ofCoordinates?, if_neg positive, dif_pos small,
    Int.toNat_natCast]

theorem checkedOfText?_of_spells (h : Spells text letter digits)
    (named : columnOf? letter = some column) : checkedOfText? text =
      ((readDigits digits).map fun row => some ⟨row, column⟩).mapError .digits := by
  rw [checkedOfText?, h.letterAndDigits?]
  dsimp only
  cases readDigits digits with
  | error limit => rfl
  | ok row =>
      show (do
        let l ← (ofLetter? row (String.singleton letter)).mapError NameError.location
        return some l) = _
      rw [ofLetter?_singleton named]
      rfl

theorem checkedOfText?_of_other (other : ∀ letter digits, ¬Spells text letter digits) :
    checkedOfText? text = .ok none := by
  rw [checkedOfText?, (no_parts_of_other other).1]

theorem Spells.exists_column (h : Spells text letter digits) :
    ∃ column, columnOf? letter = some column :=
  Option.isSome_iff_exists.mp (isSome_columnOf?_iff.mpr h.letter)

theorem spells_or_other (text : String) :
    (∃ letter digits column, Spells text letter digits ∧ columnOf? letter = some column) ∨
      ∀ letter digits, ¬Spells text letter digits := by
  by_cases form : ∃ letter digits, Spells text letter digits
  · obtain ⟨letter, digits, h⟩ := form
    obtain ⟨column, named⟩ := h.exists_column
    exact .inl ⟨letter, digits, column, h, named⟩
  · exact .inr fun letter digits h => form ⟨letter, digits, h⟩

theorem checkedOfText?_eq (text : String) :
    checkedOfText? text = (ofText? text).mapError .digits := by
  rcases spells_or_other text with ⟨letter, digits, column, h, named⟩ | other
  · rw [checkedOfText?_of_spells h named, ofText?, h.parts? named]
  · rw [checkedOfText?_of_other other, ofText?, (no_parts_of_other other).2]
    rfl

inductive Reading (text : String) : Except NameError (Option Location) → Prop
  | location {letter : Char} {digits : List Char} {column : Fin maxColumns}
      (h : Spells text letter digits) (named : columnOf? letter = some column)
      (short : digits.length ≤ maxDigits) :
      Reading text (.ok (some ⟨Nat.ofDigitChars 10 digits 0, column⟩))
  | tooLong {letter : Char} {digits : List Char} (h : Spells text letter digits)
      (long : maxDigits < digits.length) : Reading text (.error (.digits (.reading digits.length)))
  | other (other : ∀ letter digits, ¬Spells text letter digits) : Reading text (.ok none)

theorem checkedOfText?_eq_iff {outcome : Except NameError (Option Location)} :
    checkedOfText? text = outcome ↔ Reading text outcome := by
  constructor
  · rintro rfl
    rcases spells_or_other text with ⟨letter, digits, column, h, named⟩ | other
    · rw [checkedOfText?_of_spells h named, readDigits]
      split
      · rename_i short
        exact .location h named short
      · rename_i long
        exact .tooLong h (Nat.lt_of_not_le long)
    · rw [checkedOfText?_of_other other]
      exact .other other
  · intro reading
    cases reading with
    | location h named short =>
        rw [checkedOfText?_of_spells h named, readDigits, if_pos short]
        rfl
    | tooLong h long =>
        obtain ⟨column, named⟩ := h.exists_column
        rw [checkedOfText?_of_spells h named, readDigits, if_neg (Nat.not_le_of_lt long)]
        rfl
    | other other => exact checkedOfText?_of_other other

theorem checkedOfText?_eq_some_iff {l : Location} : checkedOfText? text = .ok (some l) ↔
    ∃ letter digits, Spells text letter digits ∧ digits.length ≤ maxDigits ∧
      columnOf? letter = some l.column ∧ l.row = Nat.ofDigitChars 10 digits 0 := by
  rw [checkedOfText?_eq_iff]
  constructor
  · intro reading
    cases reading with
    | location h named short => exact ⟨_, _, h, short, named, rfl⟩
  · rintro ⟨letter, digits, h, short, named, row⟩
    obtain ⟨_, column⟩ := l
    cases row
    exact .location h named short

theorem checkedOfText?_eq_none_iff :
    checkedOfText? text = .ok none ↔ ∀ letter digits, ¬Spells text letter digits := by
  rw [checkedOfText?_eq_iff]
  constructor
  · intro reading
    cases reading with
    | other other => exact other
  · exact .other

theorem checkedOfText?_eq_error_iff {e : NameError} : checkedOfText? text = .error e ↔
    ∃ letter digits, Spells text letter digits ∧ maxDigits < digits.length ∧
      e = .digits (.reading digits.length) := by
  rw [checkedOfText?_eq_iff]
  constructor
  · intro reading
    cases reading with
    | tooLong h long => exact ⟨_, _, h, long, rfl⟩
  · rintro ⟨letter, digits, h, long, rfl⟩
    exact .tooLong h long

/-- A text denotes a location exactly if it is a column letter with a row of digits behind it that are
not too many; with too many it is refused, and that is the only way to fail. -/
theorem reading_decided_by_form (text : String) :
    checkedOfText? text = (ofText? text).mapError .digits ∧
    (∀ l, checkedOfText? text = .ok (some l) ↔ ∃ letter digits, Spells text letter digits ∧
      digits.length ≤ maxDigits ∧ letter.toNat = 'A'.toNat + l.column.val ∧
        l.row = Nat.ofDigits 10 (digits.reverse.map fun c => c.toNat - '0'.toNat)) ∧
    (checkedOfText? text = .ok none ↔ ∀ letter digits, ¬Spells text letter digits) ∧
    ∀ e, checkedOfText? text = .error e ↔ ∃ letter digits, Spells text letter digits ∧
      maxDigits < digits.length ∧ e = .digits (.reading digits.length) := by
  refine ⟨checkedOfText?_eq text, fun l => ?_, checkedOfText?_eq_none_iff,
    fun e => checkedOfText?_eq_error_iff⟩
  rw [checkedOfText?_eq_some_iff]
  refine exists_congr fun letter => exists_congr fun digits => and_congr_right fun h => ?_
  rw [columnOf?_eq_some_iff, and_iff_right h.letter, ofDigitChars_eq_ofDigits]

theorem long_row_is_refused : ∃ (text : String) (digits : List Char),
    digits = List.replicate maxDigits '0' ++ ['5'] ∧ Spells text 'A' digits ∧
    Nat.ofDigits 10 (digits.reverse.map fun c => c.toNat - '0'.toNat) = 5 ∧
    checkedOfText? text = .error (.digits (.reading (maxDigits + 1))) := by
  have form : Spells (String.ofList ('A' :: (List.replicate maxDigits '0' ++ ['5']))) 'A'
      (List.replicate maxDigits '0' ++ ['5']) := by
    refine ⟨String.toList_ofList, by decide, by simp, fun c member => ?_⟩
    rcases List.mem_append.mp member with zero | five
    · rw [(List.mem_replicate.mp zero).2]
      decide
    · rw [List.mem_singleton.mp five]
      decide
  have count : (List.replicate maxDigits '0' ++ ['5']).length = maxDigits + 1 := by simp
  refine ⟨_, _, rfl, form, ?_, ?_⟩
  · rw [← ofDigitChars_eq_ofDigits, ofDigitChars_append_singleton,
      Nat.ofDigitChars_replicate_zero, Nat.mul_zero, Nat.mul_zero, Nat.zero_add]
    rfl
  · have long : maxDigits < (List.replicate maxDigits '0' ++ ['5']).length := by
      rw [count]
      exact Nat.lt_succ_self maxDigits
    rw [checkedOfText?_eq_iff, ← count]
    exact .tooLong form long

end FormulaGrid.Location
