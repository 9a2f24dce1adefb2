import FormulaGrid.Datum
import FormulaGrid.Formula.Basic

namespace FormulaGrid
open Text

inductive InvalidFormula where
  | notAnInteger (value : Datum)
  | emptyName
  | unknownOperator (symbol : String)
  | tooFewOperands (op : Op) (count : Nat)
  | notAFormula (value : Datum)
  | requestWithoutName
  | requestForUnknown (symbol : String)
  | requestWithoutOperands

def InvalidFormula.message : InvalidFormula → String
  | .notAnInteger value => "Constant requires an int, got " ++ value.shown
  | .emptyName => "Reference identifier must be non-empty"
  | .unknownOperator symbol => "Unknown operator: " ++ quoted symbol
  | .tooFewOperands op count =>
    "Operator " ++ quoted op.text ++ s!" needs at least {op.leastOperands} operand(s), got {count}"
  | .notAFormula value => "Operand is not an expression: " ++ value.shown
  | .requestWithoutName => "Requires: identifier != \"\""
  | .requestForUnknown symbol => "Unknown operator name: " ++ symbol
  | .requestWithoutOperands => "Didn't give any arguments"

inductive Operand where
  | formula (f : Formula)
  | datum (value : Datum)

def Operand.formula? : Operand → Except InvalidFormula Formula
  | .formula f => .ok f
  | .datum value => .error (.notAFormula value)

namespace Formula

def constant? : Datum → Except InvalidFormula Formula
  | .integer n => .ok (constant n)
  | value => .error (.notAnInteger value)

def reference? (name : String) : Except InvalidFormula Formula :=
  if name = "" then .error .emptyName else .ok (reference name)

/-- The operator with the given sign over operands: its sign is checked first, then their number,
then each of them. -/
def operator? (symbol : String) (operands : List Operand) : Except InvalidFormula Formula :=
  match Op.ofSymbol? symbol with
  | none => .error (.unknownOperator symbol)
  | some op =>
    if operands.length < op.leastOperands then .error (.tooFewOperands op operands.length)
    else (operands.mapM Operand.formula?).map (operator op)

end Formula

inductive Request where
  | empty
  | constant (value : Datum)
  | reference (name : String)
  | operator (symbol : String) (operands : List Operand)

def Request.formula : Request → Except InvalidFormula Formula
  | .empty => .ok .empty
  | .constant value => Formula.constant? value
  | .reference name =>
    if name = "" then .error .requestWithoutName else Formula.reference? name
  | .operator symbol operands =>
    if (Op.ofSymbol? symbol).isNone then .error (.requestForUnknown symbol)
    else if operands.isEmpty then .error .requestWithoutOperands
    else Formula.operator? symbol operands

end FormulaGrid
