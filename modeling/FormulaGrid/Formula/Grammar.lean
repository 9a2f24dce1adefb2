import FormulaGrid.Formula.Basic
import FormulaGrid.Text.Alphanumeric
import FormulaGrid.Text.Blank
import FormulaGrid.Text.Integer

/-!
A trimmed text is blank, an integer, cut at the signs of the loosest operator in it, or a name. An
operator that the grammar refuses to build is passed over for the next one. A piece that cannot be
read makes the whole text unreadable.

Cutting at a sign leaves pieces without it, so readings are nested no deeper than there are
operators. `readAt` counts that depth down and leaves open what is done when a node is built.
-/

namespace FormulaGrid
open Text

inductive ParseError where
  | unrecognised (text : String)
  | digits (limit : DigitLimit)
  deriving DecidableEq, Repr

def ParseError.message : ParseError → String
  | .unrecognised text => "Unable to parse: " ++ text
  | .digits limit => limit.message

def readLiteral? (text : List Char) : Option (Except ParseError Formula) :=
  if text.isEmpty then some (.ok .empty)
  else (readInteger? text).map fun result => (result.mapError .digits).map .constant

def readName (text : List Char) : Except ParseError Formula :=
  if isName text then .ok (.reference (String.ofList text))
  else .error (.unrecognised (String.ofList text))

section
variable {m : Type → Type} [Monad m] [MonadExceptOf ParseError m]

/-- The formula of a text in which operators are nested no deeper than the given depth. -/
def readAt (build : Op → List Formula → m (Option Formula)) : Nat → List Char → m Formula
  | 0, text =>
    let text := trim text
    liftExcept ((readLiteral? text).getD (readName text))
  | depth + 1, text =>
    let text := trim text
    match readLiteral? text with
    | some result => liftExcept result
    | none => do
      let built ← Op.all.findSomeM? fun op =>
        if op.symbol ∈ text then do
          let operands ← (text.splitOn op.symbol).mapM (readAt build depth)
          build op operands
        else pure none
      match built with
      | some formula => pure formula
      | none => liftExcept (readName text)

end

/-- A grammar is given by the operators that it refuses to build. -/
structure Grammar where
  refused : List Op
  deriving DecidableEq, Repr

namespace Grammar

def stock : Grammar := ⟨[]⟩

def node? (g : Grammar) (op : Op) (operands : List Formula) : Option Formula :=
  if op ∈ g.refused then none else some (.operator op operands)

def read (g : Grammar) (text : List Char) : Except ParseError Formula :=
  readAt (fun op operands => .ok (g.node? op operands)) Op.all.length text

def parse (g : Grammar) (text : String) : Except ParseError Formula :=
  g.read text.toList

/-- The formula of a text, and the operators that were tried on the way, refused ones included. -/
def attempts (g : Grammar) (text : String) : Except ParseError Formula × List Op :=
  let note (op : Op) (operands : List Formula) :
      ExceptT ParseError (StateM (List Op)) (Option Formula) := do
    modify (op :: ·)
    return g.node? op operands
  let (result, tried) := (readAt note Op.all.length text.toList).run.run []
  (result, tried.reverse)

end Grammar

end FormulaGrid
