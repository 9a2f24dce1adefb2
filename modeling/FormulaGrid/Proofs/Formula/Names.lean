import FormulaGrid.Proofs.Formula.Refusal
import FormulaGrid.Proofs.Formula.RoundTrip

namespace FormulaGrid
open Text

variable {g : Grammar} {text : List Char} {f : Formula}

theorem mem_namePieces {piece : List Char} : piece ∈ namePieces text ↔
    piece ∈ pieces text ∧ piece ≠ [] ∧ isDigits piece = false := by
  simp [namePieces]

theorem namePieces_trim (text : List Char) : namePieces (trim text) = namePieces text := by
  rw [namePieces, pieces_trim, namePieces]

theorem namePieces_eq_flatMap (op : Op) (text : List Char) :
    namePieces text = (op.parts text).flatMap namePieces := by
  rw [namePieces, pieces_eq_flatMap op, List.filter_flatMap]
  rfl

theorem namePieces_cons_symbol (op : Op) (text : List Char) :
    namePieces (op.symbol :: text) = namePieces text := by
  rw [namePieces, pieces_cons_symbol, List.filter_cons_of_neg (by simp), namePieces]

theorem namePieces_of_isDigits (row : isDigits text = true) : namePieces text = [] := by
  rw [namePieces, pieces_of_isAlphanumeric (isAlphanumeric_of_mem_digits row)]
  simp [row]

theorem namePieces_of_isName (name : isName text = true) (word : isDigits text = false) :
    namePieces text = [text] := by
  rw [namePieces, pieces_of_isAlphanumeric (isAlphanumeric_of_mem_name name)]
  have some : text.isEmpty = false := by
    cases text with
    | nil => cases name
    | cons c rest => rfl
  simp [word, some]

theorem namePieces_of_readLiteral? {result : Except ParseError Formula}
    (literal : readLiteral? text = some result) : namePieces text = [] := by
  by_cases nothing : text = []
  · subst nothing
    rfl
  · rw [readLiteral?_of_ne_nil nothing, Option.map_eq_some_iff] at literal
    obtain ⟨integer, read, -⟩ := literal
    obtain ⟨sign, digits, rfl, optional, row, -⟩ := exists_digits_of_readInteger? read
    have unsigned := namePieces_of_isDigits row
    rcases optional with rfl | rfl | rfl
    · exact unsigned
    · exact (namePieces_cons_symbol .add digits).trans unsigned
    · exact (namePieces_cons_symbol .subtract digits).trans unsigned

theorem names_of_readLiteral? (literal : readLiteral? text = some (.ok f)) : f.names = [] := by
  rcases formula_of_readLiteral? literal with rfl | ⟨n, rfl, -⟩
  · rfl
  · rfl

theorem names_of_readName (read : readName text = .ok f) :
    f.names.map String.toList = [text] := by
  unfold readName at read
  split at read
  · cases read
    rw [Formula.names, List.map_singleton, String.toList_ofList]
  · cases read

theorem names_of_read (read : g.read text = .ok f) :
    f.names.map String.toList = namePieces text := by
  -- every part between the signs of one operator has fewer operators in it
  induction size : (Op.present text).length using Nat.strong_induction_on generalizing text f with
  | h size ih =>
      rcases g.read_cases text with literal | ⟨noLiteral, -, result⟩ | ⟨-, op, takes, result⟩
      · rw [← namePieces_trim, namePieces_of_readLiteral? literal]
        rw [read] at literal
        rw [names_of_readLiteral? literal, List.map_nil]
      · rw [read] at result
        have name := isName_of_readName result.symm
        rw [← namePieces_trim, names_of_readName result.symm,
          namePieces_of_isName name (isDigits_of_readLiteral?_eq_none noLiteral)]
      · rw [read] at result
        obtain ⟨operands, each, rfl⟩ := map_eq_ok.mp result.symm
        rw [Formula.names_operator, List.map_flatMap, namePieces_eq_flatMap op]
        refine flatMap_of_mapM each fun part member operand single => ?_
        exact ih _ (size ▸ Op.length_present_lt takes.mem member) single rfl

/-- What a formula reads are the pieces of its text that are neither empty nor integers, and it names
them one for one in their order. The text that is written for the formula has the same ones. -/
theorem dependencies_are_pieces {text : String} (parsed : g.parse text = .ok f) :
    (∀ name, name ∈ f.dependencies ↔ name.toList ∈ pieces text.toList ∧ name ≠ "" ∧
      isDigits name.toList = false) ∧
    f.names.map String.toList = namePieces text.toList ∧
    ∃ written, f.render = .ok written ∧ namePieces written.toList = namePieces text.toList := by
  have names : f.names.map String.toList = namePieces text.toList := names_of_read parsed
  refine ⟨fun name => ?_, names, ?_⟩
  · have injective : Function.Injective String.toList := fun a b same => String.toList_inj.mp same
    rw [Formula.mem_dependencies, ← List.mem_map_of_injective injective, names, mem_namePieces,
      ne_eq, String.toList_eq_nil_iff]
  · obtain ⟨written, rendered, back⟩ := parse_render_parse parsed
    have again : f.names.map String.toList = namePieces written.toList := names_of_read back
    exact ⟨written, rendered, again.symm.trans names⟩

theorem dependencies_are_pieces_twice : ∃ f, Grammar.stock.parse " tax2 + -007=x1*tax2" = .ok f ∧
    f.dependencies = ["tax2", "x1"] ∧ f.names = ["tax2", "x1", "tax2"] ∧
    (∀ name, name ∈ f.dependencies ↔ name.toList ∈ pieces " tax2 + -007=x1*tax2".toList ∧
      name ≠ "" ∧ isDigits name.toList = false) ∧
    f.render = .ok "tax2 + -7 = x1 * tax2" ∧
    namePieces "tax2 + -7 = x1 * tax2".toList = ["tax2", "x1", "tax2"].map String.toList := by
  let f : Formula := .operator .equal [.operator .add [.reference "tax2", .constant (-7)],
    .operator .multiply [.reference "x1", .reference "tax2"]]
  have parsed : Grammar.stock.parse " tax2 + -007=x1*tax2" = .ok f := rfl
  have shown : f.render = .ok "tax2 + -7 = x1 * tax2" := by decide +kernel
  have listed : f.names = ["tax2", "x1", "tax2"] := rfl
  obtain ⟨dependencies, names, written, rendered, same⟩ := dependencies_are_pieces parsed
  rw [shown] at rendered
  cases rendered
  refine ⟨f, parsed, rfl, listed, dependencies, shown, ?_⟩
  rw [same, ← names, listed]

end FormulaGrid
