import FormulaGrid.Formula.Written
import FormulaGrid.Proofs.Formula.Blame

namespace FormulaGrid
open Text

variable {g : Grammar} {above : List Op} {f : Formula} {text : List Char} {n : Int}

/-! ## Operators -/

theorem mem_intercalate {separator : List Char} {texts : List (List Char)} {c : Char}
    (member : c ∈ separator.intercalate texts) : c ∈ separator ∨ ∃ text ∈ texts, c ∈ text := by
  induction texts with
  | nil => cases member
  | cons first rest ih =>
      cases rest with
      | nil =>
          rw [List.intercalate_singleton] at member
          exact .inr ⟨first, List.mem_cons_self, member⟩
      | cons next rest =>
          rw [List.intercalate_cons_cons, List.mem_append, List.mem_append] at member
          rcases member with (member | member) | member
          · exact .inr ⟨first, List.mem_cons_self, member⟩
          · exact .inl member
          · rcases ih member with between | ⟨text, later, within⟩
            · exact .inl between
            · exact .inr ⟨text, List.mem_cons_of_mem first later, within⟩

def Op.join (op : Op) (texts : List (List Char)) : List Char :=
  [' ', op.symbol, ' '].intercalate texts

theorem Op.mem_join {op other : Op} {texts : List (List Char)}
    (here : other.symbol ∈ op.join texts) :
    other = op ∨ ∃ text ∈ texts, other.symbol ∈ text := by
  rcases mem_intercalate here with between | within
  · refine .inl (Op.symbol_inj.mp ?_)
    have visible : other.symbol ≠ ' ' := by
      cases other <;> decide
    simpa [visible] using between
  · exact .inr within

theorem text_operator (op : Op) (operands : List Formula) :
    (Formula.operator op operands).text = (operands.mapM Formula.text).map op.join := by
  rw [Formula.text, Formula.textsOfAll_eq]
  cases operands.mapM Formula.text <;> rfl

theorem text_operator_of_mapM (op : Op) {operands : List Formula} {texts : List (List Char)}
    (each : operands.mapM Formula.text = .ok texts) :
    (Formula.operator op operands).text = .ok (op.join texts) := by
  rw [text_operator, each]
  rfl

theorem texts_of_text_operator {op : Op} {operands : List Formula}
    (written : (Formula.operator op operands).text = .ok text) :
    ∃ texts, operands.mapM Formula.text = .ok texts ∧ text = op.join texts := by
  rw [text_operator] at written
  obtain ⟨texts, each, joined⟩ := map_eq_ok.mp written
  exact ⟨texts, each, joined.symm⟩

theorem isAlphanumeric_of_mem_name (name : isName text = true) :
    ∀ c ∈ text, isAlphanumeric c = true := by
  have parts : text.isEmpty = false ∧ text.all isAlphanumeric = true := by
    simpa [isName] using name
  exact List.all_eq_true.mp parts.2

/-! ## Signs -/

theorem sign_of_mem_text (normal : f.NormalUnder g above) (written : f.text = .ok text) {op : Op}
    (here : op.symbol ∈ text) :
    (op ∉ g.refused ∧ ∀ parent ∈ above.head?, parent.priority < op.priority) ∨
      (op = .subtract ∧ ∀ parent ∈ above, g.keepsSign parent = true) := by
  induction normal generalizing text with
  | empty =>
      cases written
      cases here
  | constant short keeps =>
      rw [Formula.text, writeInteger_of_length_le short] at written
      cases written
      rcases mem_integerText here with digit | ⟨minus, negative⟩
      · rw [op.isDigit_symbol] at digit
        cases digit
      · exact .inr ⟨Op.symbol_inj.mp minus, keeps negative⟩
  | reference name word =>
      cases written
      exact absurd here (symbol_not_mem_of_isAlphanumeric (isAlphanumeric_of_mem_name name) op)
  | @operator above parent operands built tighter _ _ ih =>
      obtain ⟨texts, each, rfl⟩ := texts_of_text_operator written
      rcases Op.mem_join here with rfl | ⟨operandText, member, within⟩
      · exact .inl ⟨built, tighter⟩
      · obtain ⟨operand, among, written⟩ := exists_mem_of_mapM each operandText member
        rcases ih operand among written within with ⟨built, below⟩ | ⟨minus, keeps⟩
        · refine .inl ⟨built, fun grandparent nearest => ?_⟩
          exact Nat.lt_trans (tighter grandparent nearest) (below parent rfl)
        · exact .inr ⟨minus, fun ancestor member => keeps ancestor (List.mem_cons_of_mem _ member)⟩

/-! ## Pieces -/

theorem trim_integerText (n : Int) : trim (integerText n) = integerText n := by
  refine trim_eq_self fun c member => ?_
  rcases mem_integerText member with digit | ⟨rfl, -⟩
  · exact isBlank_of_isDigit digit
  · rfl

theorem readLiteral?_integerText (short : (Nat.toDigits 10 n.natAbs).length ≤ maxDigits) :
    readLiteral? (integerText n) = some (.ok (.constant n)) := by
  have some : integerText n ≠ [] := by
    cases n with
    | ofNat magnitude => exact Nat.toDigits_ne_nil
    | negSucc magnitude => exact List.cons_ne_nil _ _
  rw [readLiteral?_of_ne_nil some, readInteger?_integerText short]
  rfl

theorem firstPieceError?_text (normal : f.NormalUnder g above) (written : f.text = .ok text) :
    firstPieceError? text = none := by
  induction normal generalizing text with
  | empty =>
      cases written
      rfl
  | constant short _ =>
      rw [Formula.text, writeInteger_of_length_le short] at written
      cases written
      exact (failure?_of_readLiteral? (readLiteral?_integerText short)).symm
  | reference name word =>
      cases written
      rw [firstPieceError?_of_isAlphanumeric (isAlphanumeric_of_mem_name name),
        pieceError?_eq_none_iff]
      exact .inr ⟨name, fun row => absurd row word⟩
  | @operator above op operands _ _ many _ ih =>
      obtain ⟨texts, each, rfl⟩ := texts_of_text_operator written
      have some : texts ≠ [] := by
        rw [length_of_mapM each] at many
        exact List.ne_nil_of_length_pos (Nat.lt_of_lt_of_le Nat.zero_lt_two many)
      have split : pieces (op.join texts) = texts.flatMap pieces :=
        trimmedParts_intercalate (fun _ => isBlank_of_isSign) (isSign_symbol op) some
      rw [firstPieceError?, split, List.findSome?_eq_none_iff]
      intro piece member
      obtain ⟨operandText, among, within⟩ := List.mem_flatMap.mp member
      obtain ⟨operand, member, written⟩ := exists_mem_of_mapM each operandText among
      exact List.findSome?_eq_none_iff.mp (ih operand member written) piece within

end FormulaGrid
