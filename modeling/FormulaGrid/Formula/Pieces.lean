import FormulaGrid.Formula.Grammar

namespace FormulaGrid
open Text

def isSign (c : Char) : Bool :=
  Op.all.any fun op => op.symbol = c

def pieces (text : List Char) : List (List Char) :=
  (text.splitOnP isSign).map trim

def namePieces (text : List Char) : List (List Char) :=
  (pieces text).filter fun piece => !piece.isEmpty && !isDigits piece

/-- What is wrong with a piece: nothing if it is empty, a name, or not too many digits. -/
def pieceError? (piece : List Char) : Option ParseError :=
  if isDigits piece then
    if piece.length ≤ maxDigits then none else some (.digits (.reading piece.length))
  else if piece.isEmpty || isName piece then none
  else some (.unrecognised (String.ofList piece))

def firstPieceError? (text : List Char) : Option ParseError :=
  (pieces text).findSome? pieceError?

end FormulaGrid
