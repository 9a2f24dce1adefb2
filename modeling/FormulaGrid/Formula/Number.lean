import FormulaGrid.Formula.Written
import FormulaGrid.Text.Quoted

namespace FormulaGrid
open Text

inductive NumberError where
  | emptyCell
  | reference (name : String)
  | operator (text : String)
  | unwritable (limit : DigitLimit)
  deriving DecidableEq, Repr

def NumberError.message : NumberError → String
  | .emptyCell => "empty cell has no numeric value"
  | .reference name => "reference " ++ name ++ " is not a number"
  | .operator text => "unevaluated operator " ++ quoted text ++ " is not a number"
  | .unwritable limit => limit.message

def Formula.number : Formula → Except NumberError Int
  | .empty => .error .emptyCell
  | .constant n => .ok n
  | .reference name => .error (.reference name)
  | .operator op operands =>
    match (Formula.operator op operands).render with
    | .ok text => .error (.operator text)
    | .error limit => .error (.unwritable limit)

end FormulaGrid
