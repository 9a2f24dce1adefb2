import FormulaGrid.Formula.Grammar

/-!
The trees that reading a text can yield. A minus sign under `-`, `*` or `/` would be read as an
operator, so a negative integer stands only under the looser ones, unless no `-` is built.
-/

namespace FormulaGrid
open Text

def Op.priority (op : Op) : Nat :=
  Op.all.idxOf op

def Op.keepsSign : Op → Bool
  | .equal | .less | .add => true
  | .subtract | .multiply | .divide => false

/-- Whether an operand that starts with a minus sign keeps it; where no `-` is built, it does. -/
def Grammar.keepsSign (g : Grammar) (op : Op) : Bool :=
  op.keepsSign || .subtract ∈ g.refused

/-- A formula is as a grammar reads it below the given operators, the nearest one first. -/
inductive Formula.NormalUnder (g : Grammar) : List Op → Formula → Prop
  | empty {above : List Op} : NormalUnder g above .empty
  | constant {above : List Op} {n : Int} : (Nat.toDigits 10 n.natAbs).length ≤ maxDigits →
      (n < 0 → ∀ op ∈ above, g.keepsSign op = true) → NormalUnder g above (.constant n)
  | reference {above : List Op} {name : String} : isName name.toList → ¬isDigits name.toList →
      NormalUnder g above (.reference name)
  | operator {above : List Op} {op : Op} {operands : List Formula} : op ∉ g.refused →
      (∀ parent ∈ above.head?, parent.priority < op.priority) → 2 ≤ operands.length →
      (∀ f ∈ operands, NormalUnder g (op :: above) f) →
      NormalUnder g above (.operator op operands)

def Grammar.Normal (g : Grammar) (f : Formula) : Prop :=
  f.NormalUnder g []

end FormulaGrid
