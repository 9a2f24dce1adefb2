import FormulaGrid.Proofs.Formula.ReadForms
import FormulaGrid.Proofs.Formula.WrittenForms

/-!
# Formulas read back from their texts

The text of a formula in normal form is cut at the signs of its outermost operator into the texts of
the operands. The signs of looser operators are not in it, except for a `-` that cannot be built.
-/

namespace FormulaGrid
open Text

variable {g : Grammar} {above : List Op} {f : Formula} {text before after : List Char} {op : Op}
  {operands : List Formula} {texts : List (List Char)}

/-! ## Texts that are no literals -/

theorem isDigits_trimEnd_cons_space (after : List Char) :
    isDigits (trimEnd (' ' :: after)) = false := by
  rw [← Bool.not_eq_true, isDigits_iff]
  rintro ⟨some, digits⟩
  obtain ⟨first, rest, split⟩ := List.exists_cons_of_ne_nil some
  have start : first = ' ' := by
    have leading : first :: rest <+: ' ' :: after := split ▸ List.rdropWhile_prefix _ _
    exact (List.cons_prefix_cons.mp leading).1
  have digit := digits first (split ▸ List.mem_cons_self)
  rw [start] at digit
  cases digit

theorem readInteger?_spaced (op : Op) (before after : List Char) :
    readInteger? (trim (before ++ [' ', op.symbol, ' '] ++ after)) = none := by
  have shape : trim (before ++ [' ', op.symbol, ' '] ++ after) =
      trimStart (before ++ [' ']) ++ op.symbol :: trimEnd (' ' :: after) := by
    rw [← trim_append_cons op.isBlank_symbol]
    simp
  rw [shape, Option.eq_none_iff_forall_not_mem]
  intro result read
  have row := (isDigits_of_readInteger? read op.isDigit_symbol).2
  rw [isDigits_trimEnd_cons_space] at row
  cases row

theorem exists_join_eq (op : Op) (many : 2 ≤ texts.length) :
    ∃ before after, op.join texts = before ++ [' ', op.symbol, ' '] ++ after := by
  match texts, many with
  | first :: next :: rest, _ => exact ⟨first, op.join (next :: rest), List.intercalate_cons_cons⟩

theorem symbol_mem_join (op : Op) (many : 2 ≤ texts.length) : op.symbol ∈ op.join texts := by
  obtain ⟨before, after, shape⟩ := exists_join_eq op many
  simp [shape]

theorem readLiteral?_join (op : Op) (many : 2 ≤ texts.length) :
    readLiteral? (trim (op.join texts)) = none := by
  have some : trim (op.join texts) ≠ [] := by
    have here := (mem_trim_iff op.isBlank_symbol).mpr (symbol_mem_join op many)
    exact List.ne_nil_of_mem here
  obtain ⟨before, after, shape⟩ := exists_join_eq op many
  rw [readLiteral?_of_ne_nil some, shape, readInteger?_spaced]
  rfl

theorem readLiteral?_of_isName (name : isName text = true) (word : ¬isDigits text) :
    readLiteral? text = none := by
  have visible := isAlphanumeric_of_mem_name name
  have some : text ≠ [] := by
    rintro rfl
    cases name
  rw [readLiteral?_of_ne_nil some, Option.map_eq_none_iff, Option.eq_none_iff_forall_not_mem]
  intro result read
  obtain ⟨sign, digits, rfl, optional, row, -⟩ := exists_digits_of_readInteger? read
  rcases optional with rfl | rfl | rfl
  · exact word row
  · cases visible '+' (by simp)
  · cases visible '-' (by simp)

/-! ## Signs in the text of an operator -/

theorem minus_of_refused (normal : f.NormalUnder g above) (written : f.text = .ok text)
    (refused : op ∈ g.refused) (here : op.symbol ∈ text) : op = .subtract := by
  rcases sign_of_mem_text normal written here with ⟨built, -⟩ | ⟨minus, -⟩
  · exact absurd refused built
  · exact minus

theorem lt_or_minus_refused {other : Op} (normal : f.NormalUnder g (op :: above))
    (written : f.text = .ok text) (here : other.symbol ∈ text) :
    op.priority < other.priority ∨
      (other = .subtract ∧ (op.keepsSign = true ∨ .subtract ∈ g.refused)) := by
  rcases sign_of_mem_text normal written here with ⟨-, tighter⟩ | ⟨minus, keeps⟩
  · exact .inl (tighter op rfl)
  · have keeps := keeps op List.mem_cons_self
    exact .inr ⟨minus, by simpa [Grammar.keepsSign] using keeps⟩

theorem symbol_not_mem_operand (built : op ∉ g.refused) (normal : f.NormalUnder g (op :: above))
    (written : f.text = .ok text) : op.symbol ∉ text := by
  intro here
  rcases lt_or_minus_refused normal written here with tighter | ⟨rfl, keeps | refused⟩
  · exact Nat.lt_irrefl _ tighter
  · cases keeps
  · exact built refused

theorem parts_join (many : 2 ≤ texts.length) (away : ∀ text ∈ texts, op.symbol ∉ text) :
    op.parts (op.join texts) = texts.map trim := by
  have some : texts ≠ [] :=
    List.ne_nil_of_length_pos (Nat.lt_of_lt_of_le Nat.zero_lt_two many)
  have whole : ∀ text ∈ texts, trimmedParts (· == op.symbol) text = [trim text] := by
    intro text member
    apply trimmedParts_whole
    intro c within
    rw [beq_eq_false_iff_ne]
    rintro rfl
    exact away text member within
  unfold Op.parts Op.join
  rw [trimmedParts_intercalate op.visible_cuts (by simp) some, List.flatMap_congr whole,
    List.map_eq_flatMap]

theorem readable_parts (normal : f.NormalUnder g above) (written : f.text = .ok text)
    (part : List Char) (member : part ∈ Op.subtract.parts text) : ∃ f, g.read part = .ok f := by
  have free : ∀ other ∈ g.refused, other.symbol ∉ part := by
    intro other refused here
    have minus := minus_of_refused normal written refused (Op.mem_of_mem_parts member here)
    subst minus
    exact Op.symbol_not_mem_of_mem_parts member here
  rw [← failure?_eq_none_iff, failure?_read free, firstPieceError?, List.findSome?_eq_none_iff]
  intro piece within
  have good : firstPieceError? text = none := firstPieceError?_text normal written
  rw [firstPieceError?, pieces_eq_flatMap .subtract, List.findSome?_eq_none_iff] at good
  exact good piece (List.mem_flatMap.mpr ⟨part, member, within⟩)

theorem takes_join (normal : (Formula.operator op operands).NormalUnder g above)
    (each : operands.mapM Formula.text = .ok texts) : g.Takes (op.join texts) op := by
  have written := text_operator_of_mapM op each
  have readable := readable_parts normal written
  cases normal with
  | operator built _ many below =>
      rw [length_of_mapM each] at many
      constructor
      · intro passes
        exact built (passes (symbol_mem_join op many)).1
      · intro looser lt here
        rcases Op.mem_join here with rfl | ⟨text, member, within⟩
        · exact absurd lt (Nat.lt_irrefl _)
        · obtain ⟨operand, among, writtenOperand⟩ := exists_mem_of_mapM each text member
          rcases lt_or_minus_refused (below operand among) writtenOperand within with
            tighter | ⟨rfl, keeps | refused⟩
          · exact absurd lt (Nat.lt_asymm tighter)
          · exact absurd lt (Nat.lt_asymm (Op.keepsSign_iff.mp keeps))
          · exact ⟨refused, readable⟩

/-! ## Round trips -/

theorem read_text (normal : f.NormalUnder g above) :
    ∃ text, f.text = .ok text ∧ g.read text = .ok f := by
  induction normal with
  | empty => exact ⟨[], rfl, g.read_of_literal rfl⟩
  | @constant above n short keeps =>
      refine ⟨integerText n, writeInteger_of_length_le short, Grammar.read_of_literal ?_⟩
      rw [trim_integerText, readLiteral?_integerText short]
  | @reference above name spelled word =>
      refine ⟨name.toList, rfl, ?_⟩
      have visible := isAlphanumeric_of_mem_name spelled
      have trimmed : trim name.toList = name.toList :=
        trim_eq_self fun c member => isBlank_of_isAlphanumeric (visible c member)
      have noLiteral : readLiteral? (trim name.toList) = none := by
        rw [trimmed, readLiteral?_of_isName spelled word]
      rw [Grammar.read_of_passesOver noLiteral fun op =>
        Grammar.passesOver_of_not_mem (symbol_not_mem_of_isAlphanumeric visible op), trimmed,
        readName, if_pos spelled, String.ofList_toList]
  | @operator above op operands built tighter many below ih =>
      have written : ∀ operand ∈ operands, ∃ text, operand.text = .ok text := by
        intro operand member
        obtain ⟨text, written, -⟩ := ih operand member
        exact ⟨text, written⟩
      obtain ⟨texts, each⟩ := exists_mapM_eq_ok written
      have away : ∀ text ∈ texts, op.symbol ∉ text := by
        intro text member
        obtain ⟨operand, among, written⟩ := exists_mem_of_mapM each text member
        exact symbol_not_mem_operand built (below operand among) written
      have back : (texts.map trim).mapM g.read = .ok operands := by
        simp only [List.mapM_map, Function.comp_def, Grammar.read_trim]
        apply mapM_back each
        intro operand member text written
        obtain ⟨same, writtenSame, read⟩ := ih operand member
        rw [written] at writtenSame
        cases writtenSame
        exact read
      have takes := takes_join (.operator built tighter many below) each
      rw [length_of_mapM each] at many
      refine ⟨op.join texts, text_operator_of_mapM op each, ?_⟩
      rw [Grammar.read_of_takes (readLiteral?_join op many) takes, parts_join many away, back]
      rfl

theorem Grammar.parse_rendered (normal : g.Normal f) :
    ∃ written, f.render = .ok written ∧ g.parse written = .ok f := by
  obtain ⟨text, written, read⟩ := read_text normal
  refine ⟨String.ofList text, by rw [Formula.render, written]; rfl, ?_⟩
  rw [parse, String.toList_ofList, read]

/-- What a grammar reads can be written, and the grammar reads it again. -/
theorem parse_render_parse {text : String} (parsed : g.parse text = .ok f) :
    ∃ written, f.render = .ok written ∧ g.parse written = .ok f :=
  g.parse_rendered (g.normal_of_read parsed)

theorem parse_render_parse_no_subtract : ∃ f, Grammar.parse ⟨[.subtract]⟩ "x*-05 / +3" = .ok f ∧
    f.render = .ok "x * -5 /  + 3" ∧ Grammar.parse ⟨[.subtract]⟩ "x * -5 /  + 3" = .ok f := by
  obtain ⟨f, parsed, rendered⟩ : ∃ f, Grammar.parse ⟨[.subtract]⟩ "x*-05 / +3" = .ok f ∧
      f.render = .ok "x * -5 /  + 3" := by
    refine ⟨.operator .add [.operator .multiply [.reference "x",
      .operator .divide [.constant (-5), .empty]], .constant 3], rfl, ?_⟩
    decide +kernel
  obtain ⟨written, text, back⟩ := parse_render_parse parsed
  rw [rendered] at text
  cases text
  exact ⟨f, parsed, rendered, back⟩

/-- The formulas in normal form are those that are read back from their own texts, and also those
that are read from any text. -/
theorem stock_round_trip_iff_normal (f : Formula) :
    ((∃ written, f.render = .ok written ∧ Grammar.stock.parse written = .ok f) ↔
      Grammar.stock.Normal f) ∧
    ((∃ text, Grammar.stock.parse text = .ok f) ↔ Grammar.stock.Normal f) := by
  have normal {text : String} (parsed : Grammar.stock.parse text = .ok f) :
      Grammar.stock.Normal f := Grammar.normal_of_read parsed
  refine ⟨⟨?_, Grammar.parse_rendered⟩, ⟨?_, fun form => ?_⟩⟩
  · rintro ⟨written, -, parsed⟩
    exact normal parsed
  · rintro ⟨text, parsed⟩
    exact normal parsed
  · obtain ⟨written, -, parsed⟩ := Grammar.parse_rendered form
    exact ⟨written, parsed⟩

end FormulaGrid
