import FormulaGrid.Sheet.Edit
import FormulaGrid.Sheet.Show

namespace FormulaGrid
open Text

section
variable {σ α β : Type} (step : σ → α → β × σ)

def answersOf (s : σ) : List α → List β
  | [] => []
  | x :: xs => (step s x).1 :: answersOf (step s x).2 xs

def stateAfter (s : σ) (xs : List α) : σ :=
  xs.foldl (fun s x => (step s x).2) s

end

inductive Call where
  | edit (e : Edit)
  | formulaAt (l : Location)
  | valueAt (l : Location) (limit : Nat := callLimit)
  | usedByAt (l : Location)
  | formulaView (row column : Int)
  | valueView (row column : Int) (limit : Nat := callLimit)

inductive Answer where
  | edited (outcome : Outcome)
  | formula (f : Formula)
  | cells (locations : List Location)
  | tile (t : Tile)
  deriving DecidableEq

inductive Failure where
  | outOfRange (e : OutOfRange)
  | digits (limit : DigitLimit)
  | rejected (r : Rejection)
  /-- Nothing is stored under the name of a cell. -/
  | missing (name : String)
  deriving DecidableEq, Repr

def EditError.failure : EditError → Failure
  | .outOfRange e => .outOfRange e
  | .rejected r => .rejected r
  | .digits limit => .digits limit

def CellError.failure : CellError → Failure
  | .outOfRange e => .outOfRange e
  | .digits limit => .digits limit

def Taken (answer : Except Failure Answer) : Prop :=
  answer = .ok (.edited .accepted)

instance : DecidablePred Taken
  | .ok a => decidable_of_iff (a = .edited .accepted) ⟨congrArg Except.ok, Except.ok.inj⟩
  | .error _ => isFalse nofun

namespace Sheet

def call (s : Sheet) : Call → Except Failure Answer × Sheet
  | .edit e =>
    match s.edit e with
    | .ok (outcome, next) => (.ok (.edited outcome), next)
    | .error e => (.error e.failure, s)
  | .formulaAt l => (((s.formulaAt l).map .formula).mapError .outOfRange, s)
  | .valueAt l limit => (((s.valueAt l limit).map .formula).mapError .outOfRange, s)
  | .usedByAt l => (((s.usedByAt l).map .cells).mapError .outOfRange, s)
  | .formulaView row column =>
    (((s.formulaView row column).map .tile).mapError CellError.failure, s)
  | .valueView row column limit =>
    (((s.valueView row column limit).map .tile).mapError CellError.failure, s)

def perform (s : Sheet) (calls : List Call) : Sheet :=
  stateAfter call s calls

def answers (s : Sheet) (calls : List Call) : List (Except Failure Answer) :=
  answersOf call s calls

end Sheet

end FormulaGrid
