import FormulaGrid.Text.Integer
import FormulaGrid.Text.Quoted

namespace FormulaGrid
open Text

abbrev maxColumns : Nat := 26

structure Location where
  row : Nat
  column : Fin maxColumns
  deriving DecidableEq, Repr

inductive LocationError where
  | row (given : Int)
  | column (given : Int)
  | letter (given : String)
  deriving DecidableEq, Repr

/-- A text that ends with an integer, which may be too long to be quoted. -/
def quotingInteger (text : String) (n : Int) : String :=
  match writeInteger n with
  | .ok written => text ++ String.ofList written
  | .error limit => limit.message

def LocationError.message : LocationError → String
  | .row given => quotingInteger "row must be >= 0, got " given
  | .column given => quotingInteger s!"column must be in [0, {maxColumns}), got " given
  | .letter given => "column letter must be A-Z, got " ++ quoted given

namespace Location

/-! ## Coordinates -/

def ofCoordinates? (row column : Int) : Except LocationError Location :=
  if row < 0 then .error (.row row)
  else if h : 0 ≤ column ∧ column < maxColumns then
    .ok ⟨row.toNat, ⟨column.toNat, by omega⟩⟩
  else .error (.column column)

/-- The column that a letter names; the letters A to Z have the code points 65 to 90. -/
def columnOf? (letter : Char) : Option (Fin maxColumns) :=
  if h : 65 ≤ letter.toNat ∧ letter.toNat ≤ 90 then
    some ⟨letter.toNat - 65, show letter.toNat - 65 < 26 by omega⟩
  else none

def ofLetter? (row : Int) (letter : String) : Except LocationError Location :=
  match letter.toList with
  | [c] =>
    match columnOf? c with
    | some column => ofCoordinates? row column.val
    | none => .error (.letter letter)
  | _ => .error (.letter letter)

/-! ## Names -/

def letter (l : Location) : Char :=
  Char.ofNat (65 + l.column.val)

def name (l : Location) : String :=
  String.ofList (l.letter :: Nat.toDigits 10 l.row)

def parts? (text : List Char) : Option (Fin maxColumns × List Char) :=
  match text with
  | [] => none
  | c :: digits => if isDigits digits then (columnOf? c).map (·, digits) else none

def denoted? (text : String) : Option Location :=
  (parts? text.toList).map fun (column, digits) => ⟨Nat.ofDigitChars 10 digits 0, column⟩

def ofText? (text : String) : Except DigitLimit (Option Location) :=
  match parts? text.toList with
  | none => .ok none
  | some (column, digits) => (readDigits digits).map fun row => some ⟨row, column⟩

def ofName? (name : String) : Option Location :=
  (denoted? name).filter (·.name = name)

theorem denoted?_eq_none_iff {text : String} : denoted? text = none ↔ ofText? text = .ok none := by
  unfold denoted? ofText?
  cases parts? text.toList with
  | none => simp
  | some p => cases h : readDigits p.2 <;> simp [h, Except.map]

/-! ## Order -/

instance : LT Location :=
  ⟨fun a b => a.row < b.row ∨ a.row = b.row ∧ a.column < b.column⟩

instance : LE Location :=
  ⟨fun a b => a < b ∨ a = b⟩

instance (a b : Location) : Decidable (a < b) :=
  inferInstanceAs (Decidable (a.row < b.row ∨ a.row = b.row ∧ a.column < b.column))

instance (a b : Location) : Decidable (a ≤ b) :=
  inferInstanceAs (Decidable (a < b ∨ a = b))

def sorted (locations : List Location) : List Location :=
  locations.mergeSort fun a b => decide (a ≤ b)

end Location

end FormulaGrid
