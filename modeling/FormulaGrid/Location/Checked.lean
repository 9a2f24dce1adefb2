import FormulaGrid.Location

/-!
Locations made of a letter and a number by operations that check the letter, the row and the column.
`Location.ofText?` does without these checks.
-/

namespace FormulaGrid
open Text

inductive NameError where
  | digits (limit : DigitLimit)
  | location (e : LocationError)
  deriving DecidableEq

namespace Location

structure Spells (text : String) (letter : Char) (digits : List Char) : Prop where
  split : text.toList = letter :: digits
  letter : 'A' ≤ letter ∧ letter ≤ 'Z'
  nonempty : digits ≠ []
  decimal : ∀ c ∈ digits, '0' ≤ c ∧ c ≤ '9'

/-- The row in a text starts with a zero and goes on. -/
def HasPaddedRow (text : String) : Prop :=
  ∃ letter rest, text.toList = letter :: '0' :: rest ∧ rest ≠ []

def letterAndDigits? (text : List Char) : Option (String × List Char) :=
  match text with
  | [] => none
  | c :: digits =>
    if ('A' ≤ c ∧ c ≤ 'Z') ∧ isDigits digits then some (String.singleton c, digits) else none

def checkedOfText? (text : String) : Except NameError (Option Location) :=
  match letterAndDigits? text.toList with
  | none => .ok none
  | some (letter, digits) => do
    let row ← (readDigits digits).mapError .digits
    let l ← (ofLetter? row letter).mapError .location
    return some l

def written (l : Location) : Except DigitLimit String :=
  (writeInteger l.row).map fun row => String.ofList (l.letter :: row)

end Location

end FormulaGrid
