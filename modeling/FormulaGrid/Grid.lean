import FormulaGrid.Formula.Basic
import FormulaGrid.Table
import FormulaGrid.Text.Integer

namespace FormulaGrid
open Text

abbrev Position := Nat × Nat

inductive OutOfRange where
  | coordinates (rows columns : Nat) (row column : Int)
  /-- One of the numbers is too long to be quoted. -/
  | digits (limit : DigitLimit)
  deriving DecidableEq, Repr

def OutOfRange.of (rows columns : Nat) (row column : Int) : OutOfRange :=
  match [Int.ofNat rows, Int.ofNat columns, row, column].mapM writeInteger with
  | .ok _ => .coordinates rows columns row column
  | .error limit => .digits limit

def OutOfRange.message : OutOfRange → String
  | .coordinates rows columns row column =>
    s!"Requires: 0 <= row < {rows}, 0 <= column < {columns}; got ({row}, {column})"
  | .digits limit => limit.message

def InBounds (rows columns : Nat) (row column : Int) : Prop :=
  0 ≤ row ∧ row < rows ∧ 0 ≤ column ∧ column < columns

instance (rows columns : Nat) (row column : Int) : Decidable (InBounds rows columns row column) :=
  inferInstanceAs (Decidable (_ ∧ _))

def position? (rows columns : Nat) (row column : Int) : Except OutOfRange Position :=
  if InBounds rows columns row column then .ok (row.toNat, column.toNat)
  else .error (.of rows columns row column)

structure Grid where
  rows : Nat
  columns : Nat
  background : Formula
  written : Table Position Formula
  rows_pos : 0 < rows
  columns_pos : 0 < columns

namespace Grid

def blank? (background : Formula) (rows columns : Int) : Option Grid :=
  if size : 0 < rows ∧ 0 < columns then
    some ⟨rows.toNat, columns.toNat, background, .empty, by omega, by omega⟩
  else none

def position? (g : Grid) (row column : Int) : Except OutOfRange Position :=
  FormulaGrid.position? g.rows g.columns row column

def get (g : Grid) (p : Position) : Formula :=
  (g.written.get? p).getD g.background

def set (g : Grid) (p : Position) (f : Formula) : Grid :=
  { g with written := g.written.set p f }

@[simp] theorem rows_set (g : Grid) (p : Position) (f : Formula) : (g.set p f).rows = g.rows := rfl

@[simp] theorem columns_set (g : Grid) (p : Position) (f : Formula) :
    (g.set p f).columns = g.columns := rfl

@[simp] theorem background_set (g : Grid) (p : Position) (f : Formula) :
    (g.set p f).background = g.background := rfl

theorem get_of_blank? {background : Formula} {rows columns : Int} {g : Grid}
    (h : blank? background rows columns = some g) (p : Position) : g.get p = background := by
  unfold blank? at h
  split at h
  · cases h
    rfl
  · cases h

theorem size_of_blank? {background : Formula} {rows columns : Int} {g : Grid}
    (h : blank? background rows columns = some g) :
    (g.rows : Int) = rows ∧ (g.columns : Int) = columns := by
  unfold blank? at h
  split at h
  · rename_i size
    cases h
    exact ⟨Int.toNat_of_nonneg (Int.le_of_lt size.1), Int.toNat_of_nonneg (Int.le_of_lt size.2)⟩
  · cases h

theorem get_set (g : Grid) (p q : Position) (f : Formula) :
    (g.set p f).get q = if q = p then f else g.get q := by
  unfold get set
  rw [Table.get?_set]
  split <;> rfl

end Grid

end FormulaGrid
