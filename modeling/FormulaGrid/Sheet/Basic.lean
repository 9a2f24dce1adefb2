import FormulaGrid.Evaluation
import FormulaGrid.Formula.Grammar
import FormulaGrid.Graph
import FormulaGrid.Grid
import FormulaGrid.Location

/-!
A sheet is a grid of named cells beside built-in names, none of which reads as the location of a cell.
A cell is evaluated through a reference to its own name, so a cell that reads itself is on a cycle.
Nothing is kept between two evaluations, and each one has the limit that its caller leaves to it.
-/

namespace FormulaGrid
open Text

structure Sheet where
  grammar : Grammar
  builtins : Table String Formula
  grid : Grid
  columns_le : grid.columns ≤ maxColumns
  builtins_apart : ∀ name ∈ builtins.keys, Location.denoted? name = none

/-! ## Setting up -/

inductive SetupError where
  | noCells
  | tooManyColumns
  | collision (name : String)
  /-- A built-in name looks like the location of a cell with too many digits. -/
  | digits (limit : DigitLimit)
  deriving DecidableEq, Repr

def SetupError.message : SetupError → String
  | .noCells => "Requires: rows > 0, columns > 0"
  | .tooManyColumns => s!"Requires: columns <= {maxColumns}"
  | .collision name => "Built-in " ++ quoted name ++ " collides with a cell location"
  | .digits limit => limit.message

def nameClash? (name : String) : Option SetupError :=
  match Location.ofText? name with
  | .ok none => none
  | .ok (some _) => some (.collision name)
  | .error limit => some (.digits limit)

theorem denoted?_of_nameClash? {name : String} (h : nameClash? name = none) :
    Location.denoted? name = none := by
  rw [Location.denoted?_eq_none_iff]
  unfold nameClash? at h
  split at h <;> simp_all

namespace Sheet

def create (grammar : Grammar) (builtins : Table String Formula) (background : Formula)
    (rows columns : Int) : Except SetupError Sheet :=
  match Grid.blank? background rows columns with
  | none => .error .noCells
  | some grid =>
    if narrow : grid.columns ≤ maxColumns then
      match clash : builtins.keys.findSome? nameClash? with
      | some e => .error e
      | none => .ok {
          grammar, builtins, grid
          columns_le := narrow
          builtins_apart := fun name mem =>
            denoted?_of_nameClash? (List.findSome?_eq_none_iff.1 clash name mem) }
    else .error .tooManyColumns

/-! ## Cells -/

def position (l : Location) : Position :=
  (l.row, l.column.val)

def Contains (s : Sheet) (l : Location) : Prop :=
  l.row < s.grid.rows ∧ l.column.val < s.grid.columns

instance (s : Sheet) (l : Location) : Decidable (s.Contains l) :=
  inferInstanceAs (Decidable (_ ∧ _))

def locate (s : Sheet) (row column : Int) : Except OutOfRange Location :=
  if inside : InBounds s.grid.rows s.grid.columns row column then
    .ok ⟨row.toNat, ⟨column.toNat, by have := s.columns_le; have := inside.2.2; omega⟩⟩
  else .error (.of s.grid.rows s.grid.columns row column)

def check (s : Sheet) (l : Location) : Except OutOfRange Unit :=
  if s.Contains l then .ok () else .error (.of s.grid.rows s.grid.columns l.row l.column.val)

def formula (s : Sheet) (l : Location) : Formula :=
  s.grid.get (position l)

def install (s : Sheet) (l : Location) (f : Formula) : Sheet :=
  ⟨s.grammar, s.builtins, s.grid.set (position l) f, s.columns_le, s.builtins_apart⟩

theorem position_inj {a b : Location} : position a = position b ↔ a = b := by
  obtain ⟨row, column⟩ := a
  obtain ⟨row', column'⟩ := b
  simp [position, Fin.ext_iff]

theorem formula_install (s : Sheet) (l c : Location) (f : Formula) :
    (s.install l f).formula c = if c = l then f else s.formula c := by
  unfold formula install
  rw [Grid.get_set]
  simp only [position_inj]

def cells (s : Sheet) : List Location :=
  (List.range s.grid.rows).flatMap fun row =>
    ((List.finRange maxColumns).filter fun column => column.val < s.grid.columns).map (⟨row, ·⟩)

theorem mem_cells {s : Sheet} {l : Location} : l ∈ s.cells ↔ s.Contains l := by
  obtain ⟨row, column⟩ := l
  simp [cells, Contains]

/-! ## Values -/

def cellNamed? (s : Sheet) (name : String) : Option Location :=
  (Location.ofName? name).filter fun l => s.Contains l

def bindings (s : Sheet) : Bindings := fun name =>
  match s.cellNamed? name with
  | some l => some (s.formula l)
  | none => s.builtins.get? name

def evaluate (s : Sheet) (l : Location) (limit : Nat := callLimit) : Except EvalError Value :=
  valueWithin s.bindings limit (.reference l.name)

def evaluates (s : Sheet) (l : Location) (limit : Nat := callLimit) : Bool :=
  match s.evaluate l limit with
  | .ok _ => true
  | .error _ => false

theorem evaluates_iff {s : Sheet} {l : Location} {limit : Nat} :
    s.evaluates l limit = true ↔ ∃ value, s.evaluate l limit = .ok value := by
  unfold evaluates
  cases s.evaluate l limit <;> simp

def shown (s : Sheet) (l : Location) (limit : Nat := callLimit) : Formula :=
  match s.evaluate l limit with
  | .ok value => value.formula
  | .error _ => s.formula l

/-! ## Readers -/

def graph (s : Sheet) : Graph :=
  Graph.ofFormulas (s.cells.map fun l => (l.name, s.formula l))

/-- The cells whose formulas read a cell, directly or through other cells. The cell itself is among
them only if it is on a cycle. -/
def usedBy (s : Sheet) (l : Location) : List Location :=
  let names := s.graph.affected [l.name]
  s.cells.filter (·.name ∈ names)

/-! ## Cells given from outside -/

def formulaAt (s : Sheet) (l : Location) : Except OutOfRange Formula :=
  (s.check l).map fun _ => s.formula l

def valueAt (s : Sheet) (l : Location) (limit : Nat := callLimit) : Except OutOfRange Formula :=
  (s.check l).map fun _ => s.shown l limit

def usedByAt (s : Sheet) (l : Location) : Except OutOfRange (List Location) :=
  (s.check l).map fun _ => s.usedBy l

end Sheet

end FormulaGrid
