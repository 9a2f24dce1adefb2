import FormulaGrid.Formula.Basic
import FormulaGrid.Text.Integer

namespace FormulaGrid.Formula
open Text

mutual

def text : Formula → Except DigitLimit (List Char)
  | empty => .ok []
  | constant n => writeInteger n
  | reference name => .ok name.toList
  | operator op operands => do
    let texts ← textsOfAll operands
    return [' ', op.symbol, ' '].intercalate texts

def textsOfAll : List Formula → Except DigitLimit (List (List Char))
  | [] => .ok []
  | f :: fs => do
    let first ← f.text
    let rest ← textsOfAll fs
    return first :: rest

end

theorem textsOfAll_eq (fs : List Formula) : textsOfAll fs = fs.mapM text := by
  induction fs with
  | nil => rfl
  | cons f fs ih => rw [textsOfAll, List.mapM_cons, ih]

def render (f : Formula) : Except DigitLimit String :=
  f.text.map String.ofList

end FormulaGrid.Formula
