import FormulaGrid.Proofs.Formula.Reading
import FormulaGrid.Proofs.Text.Integers
import Mathlib.Order.Basic

/-!
# Which part of a text is to blame

Reading tries one operator after another, yet where no sign is refused it fails exactly if a piece of
the text is bad, and then with the error of the first bad piece (`failure?_read`).
-/

namespace FormulaGrid
open Text

variable {text : List Char}

/-! ## Pieces of simple texts -/

theorem firstPieceError?_trim (text : List Char) :
    firstPieceError? (trim text) = firstPieceError? text := by
  rw [firstPieceError?, pieces_trim, firstPieceError?]

theorem pieces_of_no_sign (quiet : ∀ op : Op, op.symbol ∉ text) : pieces text = [trim text] := by
  apply trimmedParts_whole
  intro c member
  rw [← Bool.not_eq_true, isSign_iff]
  rintro ⟨op, rfl⟩
  exact quiet op member

theorem firstPieceError?_of_no_sign (quiet : ∀ op : Op, op.symbol ∉ text) :
    firstPieceError? text = pieceError? (trim text) := by
  rw [firstPieceError?, pieces_of_no_sign quiet]
  cases h : pieceError? (trim text) <;> simp [h]

theorem symbol_not_mem_of_isAlphanumeric (word : ∀ c ∈ text, isAlphanumeric c = true) (op : Op) :
    op.symbol ∉ text := by
  intro here
  have visible := word op.symbol here
  rw [op.isAlphanumeric_symbol] at visible
  cases visible

theorem pieces_of_isAlphanumeric (word : ∀ c ∈ text, isAlphanumeric c = true) :
    pieces text = [text] := by
  rw [pieces_of_no_sign (symbol_not_mem_of_isAlphanumeric word),
    trim_eq_self fun c member => isBlank_of_isAlphanumeric (word c member)]

theorem firstPieceError?_of_isAlphanumeric (word : ∀ c ∈ text, isAlphanumeric c = true) :
    firstPieceError? text = pieceError? text := by
  rw [firstPieceError?, pieces_of_isAlphanumeric word]
  cases h : pieceError? text <;> simp [h]

theorem pieces_cons_symbol (op : Op) (text : List Char) :
    pieces (op.symbol :: text) = [] :: pieces text :=
  trimmedParts_cut (List.forall_mem_nil _) (isSign_symbol op)

theorem firstPieceError?_cons_symbol (op : Op) (text : List Char) :
    firstPieceError? (op.symbol :: text) = firstPieceError? text := by
  have blank : pieceError? [] = none := rfl
  rw [firstPieceError?, pieces_cons_symbol, List.findSome?_cons, blank, firstPieceError?]

theorem isAlphanumeric_of_mem_digits (row : isDigits text = true) :
    ∀ c ∈ text, isAlphanumeric c = true :=
  fun c member => isAlphanumeric_of_isDigit ((isDigits_iff.mp row).2 c member)

/-! ## Literals -/

theorem readLiteral?_of_ne_nil (some : text ≠ []) : readLiteral? text =
    (readInteger? text).map fun result => (result.mapError ParseError.digits).map .constant := by
  rw [readLiteral?, if_neg (by simpa using some)]

theorem readInteger?_of_readLiteral?_eq_none (noLiteral : readLiteral? text = none) :
    text ≠ [] ∧ readInteger? text = none := by
  have some : text ≠ [] := by
    rintro rfl
    cases noLiteral
  rw [readLiteral?_of_ne_nil some, Option.map_eq_none_iff] at noLiteral
  exact ⟨some, noLiteral⟩

theorem isDigits_of_readLiteral?_eq_none (noLiteral : readLiteral? text = none) :
    isDigits text = false := by
  rw [← Bool.not_eq_true]
  intro row
  have read := readInteger?_signed row (.inl rfl)
  rw [List.nil_append, (readInteger?_of_readLiteral?_eq_none noLiteral).2] at read
  cases read

theorem failure?_of_readDigits (row : isDigits text = true) (sign : List Char) :
    failure? ((((readDigits text).map (signed sign)).mapError ParseError.digits).map
      Formula.constant) = pieceError? text := by
  rw [pieceError?, if_pos row]
  unfold readDigits
  split <;> rfl

theorem failure?_of_readLiteral? {result : Except ParseError Formula}
    (literal : readLiteral? text = some result) : failure? result = firstPieceError? text := by
  by_cases nothing : text = []
  · subst nothing
    cases literal
    rfl
  · rw [readLiteral?_of_ne_nil nothing, Option.map_eq_some_iff] at literal
    obtain ⟨integer, read, rfl⟩ := literal
    obtain ⟨sign, digits, rfl, optional, row, rfl⟩ := exists_digits_of_readInteger? read
    have unsigned := firstPieceError?_of_isAlphanumeric (isAlphanumeric_of_mem_digits row)
    rw [failure?_of_readDigits row, ← unsigned]
    rcases optional with rfl | rfl | rfl
    · rfl
    · exact (firstPieceError?_cons_symbol .add digits).symm
    · exact (firstPieceError?_cons_symbol .subtract digits).symm

theorem failure?_readName (noLiteral : readLiteral? text = none) :
    failure? (readName text) = pieceError? text := by
  have some : text.isEmpty = false := by
    simpa using (readInteger?_of_readLiteral?_eq_none noLiteral).1
  simp only [pieceError?, isDigits_of_readLiteral?_eq_none noLiteral, some, readName]
  cases isName text <;> rfl

/-! ## Texts with operators -/

theorem failure?_read {g : Grammar} (free : ∀ op ∈ g.refused, op.symbol ∉ text) :
    failure? (g.read text) = firstPieceError? text := by
  induction size : (Op.present text).length using Nat.strong_induction_on generalizing text with
  | h size ih =>
      rcases g.read_cases text with literal | ⟨noLiteral, passed, result⟩ |
        ⟨-, op, takes, result⟩
      · rw [← firstPieceError?_trim]
        exact failure?_of_readLiteral? literal
      · have quiet (op : Op) : op.symbol ∉ text := fun here => free op (passed op here).1 here
        rw [result, failure?_readName noLiteral, firstPieceError?_of_no_sign quiet]
      · rw [result, failure?_map, failure?_mapM, firstPieceError?, pieces_eq_flatMap op]
        apply findSome?_eq_flatMap
        intro part member
        have fewer := Op.length_present_lt takes.mem member
        have inherited : ∀ other ∈ g.refused, other.symbol ∉ part := fun other refused here =>
          free other refused (Op.mem_of_mem_parts member here)
        exact ih _ (size ▸ fewer) inherited rfl

def Readable (piece : List Char) : Prop :=
  piece = [] ∨ isName piece = true ∧ (isDigits piece = true → piece.length ≤ maxDigits)

theorem pieceError?_eq_none_iff {piece : List Char} :
    pieceError? piece = none ↔ Readable piece := by
  unfold pieceError? Readable
  by_cases row : isDigits piece = true
  · have name : isName piece = true := by
      simp only [isName, Bool.and_eq_true, Bool.not_eq_true', List.isEmpty_eq_false_iff,
        List.all_eq_true]
      exact ⟨(isDigits_iff.mp row).1, isAlphanumeric_of_mem_digits row⟩
    simp [row, name, (isDigits_iff.mp row).1]
  · simp [row, or_iff_not_imp_left]

theorem pieceError?_eq_some_iff {piece : List Char} {e : ParseError} :
    pieceError? piece = some e ↔ ¬Readable piece ∧
      if isDigits piece then e = .digits (.reading piece.length)
      else e = .unrecognised (String.ofList piece) ∧
        e.message = "Unable to parse: " ++ String.ofList piece := by
  have named : e = .unrecognised (String.ofList piece) ∧
      e.message = "Unable to parse: " ++ String.ofList piece ↔
        e = .unrecognised (String.ofList piece) := by
    refine and_iff_left_of_imp ?_
    rintro rfl
    rfl
  rw [← pieceError?_eq_none_iff, named, pieceError?]
  by_cases row : isDigits piece = true
  · by_cases short : piece.length ≤ maxDigits <;> simp [row, short, eq_comm]
  · by_cases plain : (piece.isEmpty || isName piece) = true <;> simp [row, plain, eq_comm]

theorem stock_parse_digits_iff {text : String} {limit : DigitLimit} :
    Grammar.stock.parse text = .error (.digits limit) ↔ ∃ before digits after,
      pieces text.toList = before ++ digits :: after ∧ (∀ p ∈ before, Readable p) ∧
      isDigits digits = true ∧ maxDigits < digits.length ∧ limit = .reading digits.length := by
  have blame : failure? (Grammar.stock.parse text) = firstPieceError? text.toList :=
    failure?_read (by simp [Grammar.stock])
  have long (piece : List Char) : pieceError? piece = some (.digits limit) ↔
      isDigits piece = true ∧ maxDigits < piece.length ∧ limit = .reading piece.length := by
    unfold pieceError?
    by_cases row : isDigits piece = true
    · by_cases short : piece.length ≤ maxDigits
      · simp [row, short, Nat.not_lt_of_le short]
      · simp [row, short, Nat.lt_of_not_le short, eq_comm]
    · by_cases plain : (piece.isEmpty || isName piece) = true <;> simp [row, plain]
  rw [← failure?_eq_some_iff, blame, firstPieceError?, List.findSome?_eq_some_iff]
  simp only [long, pieceError?_eq_none_iff]
  exact exists_congr fun before => exists_congr fun piece => exists_congr fun after => by tauto

theorem stock_parse_of_isDigits {digits : List Char} (row : isDigits digits = true)
    (long : maxDigits < digits.length) :
    Grammar.stock.parse (String.ofList digits) = .error (.digits (.reading digits.length)) := by
  have whole : pieces digits = [digits] :=
    pieces_of_isAlphanumeric (isAlphanumeric_of_mem_digits row)
  rw [stock_parse_digits_iff, String.toList_ofList, whole]
  exact ⟨[], digits, [], rfl, List.forall_mem_nil _, row, long, rfl⟩

/-- A text is read exactly if all its pieces are readable. If it is not, the first piece that is not
readable is to blame: one of digits for its length, any other one for what it is. -/
theorem stock_parse_blames_first_piece (text : String) :
    ((∃ f, Grammar.stock.parse text = .ok f) ↔ ∀ piece ∈ pieces text.toList, Readable piece) ∧
    ∀ e, Grammar.stock.parse text = .error e ↔ ∃ before piece after,
      pieces text.toList = before ++ piece :: after ∧ (∀ p ∈ before, Readable p) ∧
      ¬Readable piece ∧
      if isDigits piece then e = .digits (.reading piece.length)
      else e = .unrecognised (String.ofList piece) ∧
        e.message = "Unable to parse: " ++ String.ofList piece := by
  have blame : failure? (Grammar.stock.parse text) = firstPieceError? text.toList :=
    failure?_read fun _ refused => nomatch refused
  constructor
  · rw [← failure?_eq_none_iff, blame, firstPieceError?, List.findSome?_eq_none_iff]
    simp only [pieceError?_eq_none_iff]
  · intro e
    rw [← failure?_eq_some_iff, blame, firstPieceError?, List.findSome?_eq_some_iff]
    simp only [pieceError?_eq_some_iff, pieceError?_eq_none_iff]
    exact exists_congr fun before => exists_congr fun piece => exists_congr fun after => by tauto

example : Grammar.stock.parse "1 + A0 B1 * $" = .error (.unrecognised "A0 B1") := rfl

end FormulaGrid
