import FormulaGrid.Formula.Written
import FormulaGrid.Sheet.Basic
import FormulaGrid.View

namespace FormulaGrid
open Text

inductive CellError where
  | outOfRange (e : OutOfRange)
  | digits (limit : DigitLimit)
  deriving DecidableEq, Repr

def CellError.message : CellError → String
  | .outOfRange e => e.message
  | .digits limit => limit.message

def Tile.ofFormula (f : Formula) : Except CellError Tile :=
  (f.render.map Tile.plain).mapError .digits

def sortedNames (names : List String) : List String :=
  names.mergeSort fun a b => decide (a ≤ b)

def nameList (names : List String) : String :=
  "[" ++ ", ".intercalate ((sortedNames names).map quoted) ++ "]"

namespace Sheet

def valueView (s : Sheet) (row column : Int) (limit : Nat := callLimit) :
    Except CellError Tile := do
  let l ← (s.locate row column).mapError .outOfRange
  Tile.ofFormula (s.shown l limit)

def formulaView (s : Sheet) (row column : Int) : Except CellError Tile := do
  let l ← (s.locate row column).mapError .outOfRange
  Tile.ofFormula (s.formula l)

def filled (s : Sheet) : List Location :=
  s.cells.filter fun l => s.formula l ≠ s.grid.background

def valueViews (s : Sheet) (limit : Nat := callLimit) : List (List (Except CellError Tile)) :=
  (List.range s.grid.rows).map fun (row : Nat) =>
    (List.range s.grid.columns).map fun (column : Nat) => s.valueView row column limit

def summary (s : Sheet) : String :=
  s!"<Sheet {s.grid.rows}x{s.grid.columns} builtins=" ++ nameList s.builtins.keys ++ ">"

end Sheet

end FormulaGrid
