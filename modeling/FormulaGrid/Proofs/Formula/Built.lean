import FormulaGrid.Formula.Checked
import FormulaGrid.Proofs.Formula.ReadForms
import FormulaGrid.Proofs.Formula.WellFormed

namespace FormulaGrid

def Request.operands : Request → List Operand
  | .operator _ operands => operands
  | _ => []

namespace Formula

inductive Built : Formula → Prop
  | empty : Built .empty
  | constant {value : Datum} {f : Formula} : constant? value = .ok f → Built f
  | reference {name : String} {f : Formula} : reference? name = .ok f → Built f
  | operator {symbol : String} {operands : List Operand} {f : Formula} :
      (∀ g, .formula g ∈ operands → Built g) → operator? symbol operands = .ok f → Built f
  | request {r : Request} {f : Formula} :
      (∀ g, .formula g ∈ r.operands → Built g) → r.formula = .ok f → Built f
  | read {g : Grammar} {text : String} {f : Formula} : g.parse text = .ok f → Built f

variable {f : Formula}

theorem wellFormed_of_constant? {value : Datum} (done : constant? value = .ok f) :
    f.WellFormed := by
  cases value <;> cases done
  exact .constant _

theorem wellFormed_of_reference? {name : String} (done : reference? name = .ok f) :
    f.WellFormed := by
  unfold reference? at done
  split at done
  · cases done
  · rename_i named
    cases done
    exact .reference named

theorem operand_of_formula? {operand : Operand} (done : operand.formula? = .ok f) :
    operand = .formula f := by
  cases operand <;> cases done
  rfl

theorem mapM_formula? (fs : List Formula) : (fs.map Operand.formula).mapM Operand.formula? = .ok fs := by
  rw [List.mapM_map, mapM_eq_ok_iff]
  exact List.forall₂_same.mpr fun _ _ => rfl

theorem operator?_eq_ok_iff {symbol : String} {operands : List Operand} :
    operator? symbol operands = .ok f ↔ ∃ op fs, Op.ofSymbol? symbol = some op ∧
      operands = fs.map .formula ∧ op.leastOperands ≤ fs.length ∧ f = .operator op fs := by
  unfold operator?
  constructor
  · intro done
    split at done
    · cases done
    · rename_i op known
      split at done
      · cases done
      · rename_i enough
        obtain ⟨fs, each, rfl⟩ := map_eq_ok.mp done
        have operands_eq : operands = fs.map .formula := by
          rw [← List.forall₂_eq_eq_eq, List.forall₂_map_right_iff]
          exact (mapM_eq_ok_iff.mp each).imp fun _ _ => operand_of_formula?
        rw [operands_eq, List.length_map, Nat.not_lt] at enough
        exact ⟨op, fs, known, operands_eq, enough, rfl⟩
  · rintro ⟨op, fs, known, rfl, enough, rfl⟩
    have many : ¬(fs.map Operand.formula).length < op.leastOperands := by
      rwa [List.length_map, Nat.not_lt]
    simp only [known, if_neg many, mapM_formula?]
    rfl

theorem wellFormed_of_operator? {symbol : String} {operands : List Operand}
    (below : ∀ g, .formula g ∈ operands → g.WellFormed)
    (done : operator? symbol operands = .ok f) : f.WellFormed := by
  obtain ⟨op, fs, -, rfl, enough, rfl⟩ := operator?_eq_ok_iff.mp done
  exact .operator enough fun g member => below g (List.mem_map_of_mem member)

theorem wellFormed_of_request {r : Request} (below : ∀ g, .formula g ∈ r.operands → g.WellFormed)
    (done : r.formula = .ok f) : f.WellFormed := by
  cases r with
  | empty =>
      cases done
      exact .empty
  | constant value => exact wellFormed_of_constant? done
  | reference name =>
      rw [Request.formula] at done
      split at done
      · cases done
      · exact wellFormed_of_reference? done
  | operator symbol operands =>
      rw [Request.formula] at done
      split at done
      · cases done
      · split at done
        · cases done
        · exact wellFormed_of_operator? below done

theorem Built.wellFormed (built : f.Built) : f.WellFormed := by
  induction built with
  | empty => exact .empty
  | constant done => exact wellFormed_of_constant? done
  | reference done => exact wellFormed_of_reference? done
  | operator _ done ih => exact wellFormed_of_operator? ih done
  | request _ done ih => exact wellFormed_of_request ih done
  | read parsed => exact (Grammar.normal_of_read parsed).wellFormed

theorem WellFormed.built (formed : f.WellFormed) : f.Built := by
  induction formed with
  | empty => exact .empty
  | constant n =>
      have done : constant? (.integer n) = .ok (.constant n) := rfl
      exact .constant done
  | @reference name named => exact .reference (if_neg named)
  | @operator op operands enough _ ih =>
      have below : ∀ g, .formula g ∈ operands.map Operand.formula → Built g := by
        intro g member
        obtain ⟨f, among, same⟩ := List.mem_map.mp member
        cases same
        exact ih g among
      exact .operator below
        (operator?_eq_ok_iff.mpr ⟨op, operands, op.ofSymbol?_text, rfl, enough, rfl⟩)

theorem built_iff_wellFormed : f.Built ↔ f.WellFormed :=
  ⟨Built.wellFormed, WellFormed.built⟩

end Formula

end FormulaGrid
