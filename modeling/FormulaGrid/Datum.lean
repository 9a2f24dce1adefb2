import FormulaGrid.Text.Decimal
import FormulaGrid.Text.Integer
import FormulaGrid.Text.Quoted

namespace FormulaGrid
open Text

inductive Datum where
  | null
  | truth (value : Bool)
  | integer (value : Int)
  | float (value : Float)
  | text (value : String)
  | list (items : List Datum)
  | record (fields : List (String × Datum))
  deriving Inhabited

mutual

def Datum.shown : Datum → String
  | .null => "None"
  | .truth true => "True"
  | .truth false => "False"
  | .integer n => String.ofList (integerText n)
  | .float x => String.ofList (floatText x)
  | .text s => quoted s
  | .list items => "[" ++ ", ".intercalate (Datum.shownItems items) ++ "]"
  | .record fields => "\x7b" ++ ", ".intercalate (Datum.shownFields fields) ++ "\x7d"

def Datum.shownItems : List Datum → List String
  | [] => []
  | item :: items => item.shown :: Datum.shownItems items

def Datum.shownFields : List (String × Datum) → List String
  | [] => []
  | (name, value) :: fields => (quoted name ++ ": " ++ value.shown) :: Datum.shownFields fields

end

end FormulaGrid
