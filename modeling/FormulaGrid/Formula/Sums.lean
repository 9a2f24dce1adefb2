import FormulaGrid.Operator

/-!
Sums in ordinary arithmetic, from left to right. Reading does not work in that order: it cuts a text
at every plus sign before it cuts at any minus sign.
-/

namespace FormulaGrid

inductive Sign where
  | plus
  | minus
  deriving DecidableEq, Repr

namespace Sign

def op : Sign → Op
  | plus => .add
  | minus => .subtract

def take : Sign → Int → Int → Int
  | plus, total, n => total + n
  | minus, total, n => total - n

end Sign

structure Term where
  text : String
  number : Int

structure SignedSum where
  first : Term
  rest : List (Sign × Term)

namespace SignedSum

def terms (s : SignedSum) : List Term :=
  s.first :: s.rest.map Prod.snd

def text (s : SignedSum) : String :=
  s.rest.foldl (fun text next => text ++ next.1.op.text ++ next.2.text) s.first.text

/-- The terms added and subtracted from left to right. -/
def total (s : SignedSum) : Int :=
  s.rest.foldl (fun total next => next.1.take total next.2.number) s.first.number

end SignedSum

end FormulaGrid
