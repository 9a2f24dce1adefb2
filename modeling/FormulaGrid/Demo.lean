import FormulaGrid.Grid
import FormulaGrid.View

/-!
A fixed picture to try a display with: a green block of two by two cells in the middle.
-/

namespace FormulaGrid.Demo

def size : Nat := 6

def InBlock (p : Position) : Prop :=
  2 ≤ p.1 ∧ p.1 ≤ 3 ∧ 2 ≤ p.2 ∧ p.2 ≤ 3

instance (p : Position) : Decidable (InBlock p) :=
  inferInstanceAs (Decidable (_ ∧ _))

def tile (content : String) (row column : Int) : Except OutOfRange Tile :=
  (position? size size row column).map fun p =>
    if InBlock p then ⟨content, .green, .black⟩ else .plain ""

def valueView (row column : Int) : Except OutOfRange Tile :=
  tile "W" row column

def formulaView (row column : Int) : Except OutOfRange Tile :=
  tile "GREEN" row column

def enter (row column : Int) (_text : String) : Except OutOfRange Outcome :=
  (position? size size row column).map fun _ => .viewOnly

end FormulaGrid.Demo
