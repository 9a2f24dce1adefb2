import FormulaGrid.Proofs.Formula.ReadForms
import FormulaGrid.Proofs.Formula.WrittenForms

/-!
# What refusing operators changes

Whichever operators a grammar builds, it reads every piece of a text (`firstPieceError?_of_read`). It
may read another formula, because a minus sign between two operands for the one can belong to an
integer for the other.
-/

namespace FormulaGrid
open Text

variable {g : Grammar} {text : List Char} {f : Formula}

theorem not_refused_of_normal {above : List Op} (normal : f.NormalUnder g above) :
    ∀ op ∈ f.operators, op ∉ g.refused := by
  induction normal with
  | operator built _ _ _ ih =>
      rw [Formula.operators_operator, List.forall_mem_cons]
      refine ⟨built, fun op below => ?_⟩
      obtain ⟨operand, member, within⟩ := List.mem_flatMap.mp below
      exact ih operand member op within
  | _ => exact List.forall_mem_nil _

theorem Grammar.PassesOver.symbol_not_mem {op : Op} (passes : Grammar.stock.PassesOver text op) :
    op.symbol ∉ text :=
  fun here => List.not_mem_nil (passes here).1

theorem Grammar.Takes.of_stock {op : Op} (takes : Grammar.stock.Takes text op)
    (built : op ∉ g.refused) : g.Takes text op where
  here passes := built (passes takes.mem).1
  first looser lt := Grammar.passesOver_of_not_mem (takes.first looser lt).symbol_not_mem

theorem read_of_stock_read (read : Grammar.stock.read text = .ok f)
    (built : ∀ op ∈ f.operators, op ∉ g.refused) : g.read text = .ok f := by
  induction size : (Op.present text).length using Nat.strong_induction_on generalizing text f with
  | h size ih =>
      rcases Grammar.stock.read_cases text with literal | ⟨noLiteral, passed, result⟩ |
        ⟨noLiteral, op, takes, result⟩
      · rw [Grammar.read_of_literal literal, read]
      · have absent (op : Op) : g.PassesOver text op :=
          Grammar.passesOver_of_not_mem (passed op).symbol_not_mem
        rw [Grammar.read_of_passesOver noLiteral absent, ← result, read]
      · rw [read] at result
        obtain ⟨operands, each, rfl⟩ := map_eq_ok.mp result.symm
        rw [Formula.operators_operator, List.forall_mem_cons] at built
        rw [Grammar.read_of_takes noLiteral (takes.of_stock built.1), map_eq_ok]
        refine ⟨operands, mapM_eq_ok_imp each fun part member operand single => ?_, rfl⟩
        have fewer := Op.length_present_lt takes.mem member
        refine ih _ (size ▸ fewer) single (fun other below => built.2 other ?_) rfl
        exact List.mem_flatMap.mpr ⟨operand, mem_of_mapM each member single, below⟩

theorem isName_of_readName (read : readName text = .ok f) : isName text = true := by
  unfold readName at read
  split at read
  · assumption
  · cases read

theorem firstPieceError?_of_read (read : g.read text = .ok f) : firstPieceError? text = none := by
  induction size : (Op.present text).length using Nat.strong_induction_on generalizing text f with
  | h size ih =>
      rcases g.read_cases text with literal | ⟨noLiteral, -, result⟩ | ⟨-, op, takes, result⟩
      · rw [← firstPieceError?_trim, ← failure?_of_readLiteral? literal, read]
        rfl
      · rw [read] at result
        have word := isAlphanumeric_of_mem_name (isName_of_readName result.symm)
        rw [← firstPieceError?_trim, firstPieceError?_of_isAlphanumeric word,
          ← failure?_readName noLiteral, ← result]
        rfl
      · rw [read] at result
        obtain ⟨operands, each, rfl⟩ := map_eq_ok.mp result.symm
        rw [firstPieceError?, pieces_eq_flatMap op, List.findSome?_eq_none_iff]
        intro piece member
        obtain ⟨part, among, within⟩ := List.mem_flatMap.mp member
        obtain ⟨operand, single⟩ := exists_ok_of_mapM each part among
        have good := ih _ (size ▸ Op.length_present_lt takes.mem among) single rfl
        rw [firstPieceError?, List.findSome?_eq_none_iff] at good
        exact good piece within

theorem exists_stock_read (read : g.read text = .ok f) : ∃ f, Grammar.stock.read text = .ok f := by
  rw [← failure?_eq_none_iff, failure?_read (by simp [Grammar.stock]), firstPieceError?_of_read read]

/-- What a grammar reads holds none of the operators that it refuses, and it agrees with the stock
grammar on formulas without them. -/
theorem refusal_restricts (g : Grammar) (text : String) :
    (∀ f, g.parse text = .ok f → ∀ op ∈ f.operators, op ∉ g.refused) ∧
    (∀ f, Grammar.stock.parse text = .ok f → (∀ op ∈ f.operators, op ∉ g.refused) →
      g.parse text = .ok f) ∧
    ((∃ f, g.parse text = .ok f) → ∃ f, Grammar.stock.parse text = .ok f) := by
  refine ⟨fun f read => ?_, fun f => read_of_stock_read, ?_⟩
  · exact not_refused_of_normal (Grammar.normal_of_read read)
  · rintro ⟨f, read⟩
    exact exists_stock_read read

theorem refusal_restricts_no_subtract : ∃ (g : Grammar) (f shared : Formula),
    g = ⟨[.subtract]⟩ ∧
    g.parse "x * -5" = .ok f ∧ (∀ op ∈ f.operators, op ∉ g.refused) ∧
    (∃ other, Grammar.stock.parse "x * -5" = .ok other) ∧
    Grammar.stock.parse "x * -5" ≠ .ok f ∧
    Grammar.stock.parse "-5 + x * 3" = .ok shared ∧ (∀ op ∈ shared.operators, op ∉ g.refused) ∧
    g.parse "-5 + x * 3" = .ok shared := by
  let f : Formula := .operator .multiply [.reference "x", .constant (-5)]
  let shared : Formula :=
    .operator .add [.constant (-5), .operator .multiply [.reference "x", .constant 3]]
  have read : Grammar.parse ⟨[.subtract]⟩ "x * -5" = .ok f := rfl
  have readShared : Grammar.stock.parse "-5 + x * 3" = .ok shared := rfl
  have built : ∀ op ∈ shared.operators, op ∉ [Op.subtract] := by decide
  obtain ⟨built', -, accepted⟩ := refusal_restricts ⟨[.subtract]⟩ "x * -5"
  obtain ⟨-, same, -⟩ := refusal_restricts ⟨[.subtract]⟩ "-5 + x * 3"
  have differs : Grammar.stock.parse "x * -5" ≠ .ok f := by decide +kernel
  exact ⟨_, f, shared, rfl, read, built' f read, accepted ⟨f, read⟩, differs, readShared, built,
    same shared readShared built⟩

end FormulaGrid
