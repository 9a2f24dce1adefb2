namespace FormulaGrid

inductive Colour where
  | white
  | black
  | green
  deriving DecidableEq, Repr

def Colour.name : Colour → String
  | .white => "white"
  | .black => "black"
  | .green => "green"

structure Tile where
  content : String
  background : Colour
  foreground : Colour
  deriving DecidableEq, Repr

def Tile.plain (content : String) : Tile := ⟨content, .white, .black⟩

inductive Outcome where
  | accepted
  | unparsable (text : String)
  | rejected (reason : String)
  | viewOnly
  deriving DecidableEq, Repr

def Outcome.isAccepted : Outcome → Bool
  | .accepted => true
  | _ => false

def Outcome.message? : Outcome → Option String
  | .accepted => none
  | .unparsable text => some ("Unable to parse: " ++ text)
  | .rejected reason => some ("Type error: " ++ reason)
  | .viewOnly => some "Sheet is view only."

end FormulaGrid
