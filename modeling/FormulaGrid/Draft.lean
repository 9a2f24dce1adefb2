import FormulaGrid.Sheet.Show

namespace FormulaGrid
open Text

structure Draft where
  grammar : Grammar
  grid : Grid

namespace Draft

def create (grammar : Grammar) (background : Formula) (rows columns : Int) :
    Except SetupError Draft :=
  match Grid.blank? background rows columns with
  | none => .error .noCells
  | some grid => .ok ⟨grammar, grid⟩

def install (d : Draft) (p : Position) (f : Formula) : Draft :=
  ⟨d.grammar, d.grid.set p f⟩

def enter (d : Draft) (row column : Int) (text : String) :
    Except CellError (Outcome × Draft) := do
  let p ← (d.grid.position? row column).mapError .outOfRange
  match d.grammar.parse text with
  | .ok f => return (.accepted, d.install p f)
  | .error (.unrecognised _) => return (.unparsable text, d)
  | .error (.digits limit) => throw (.digits limit)

def formulaView (d : Draft) (row column : Int) : Except CellError Tile := do
  let p ← (d.grid.position? row column).mapError .outOfRange
  Tile.ofFormula (d.grid.get p)

def valueView (d : Draft) (row column : Int) : Except CellError Tile :=
  d.formulaView row column

end Draft

end FormulaGrid
