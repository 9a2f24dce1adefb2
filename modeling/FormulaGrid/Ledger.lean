import FormulaGrid.Sheet.Call

/-!
A ledger keeps a sheet in two tables and is changed in place: an update writes the new formula before
it knows whether the cells keep their values, and writes the previous one back if one does not. So
what a call leaves behind is part of its result, also where it fails.
-/

namespace FormulaGrid
open Text

def Location.block (rows columns : Nat) : List Location :=
  (List.range rows).flatMap fun row =>
    ((List.finRange maxColumns).filter fun column => column.val < columns).map (⟨row, ·⟩)

structure Ledger where
  grammar : Grammar
  builtins : Table String Formula
  background : Formula
  rows : Nat
  columns : Nat
  columns_le : columns ≤ maxColumns
  formulas : Table Location Formula
  environment : Table String Formula

namespace Ledger

def install (b : Ledger) (l : Location) (f : Formula) : Ledger :=
  { b with formulas := b.formulas.set l f, environment := b.environment.set l.name f }

def create (grammar : Grammar) (builtins : Table String Formula) (background : Formula)
    (rows columns : Int) : Except SetupError Ledger :=
  if 0 < rows ∧ 0 < columns then
    if narrow : columns.toNat ≤ maxColumns then
      match builtins.keys.findSome? nameClash? with
      | some e => .error e
      | none =>
        let cells := Location.block rows.toNat columns.toNat
        .ok (cells.foldl (fun b l => b.install l background) {
          grammar, builtins, background
          rows := rows.toNat
          columns := columns.toNat
          columns_le := narrow
          formulas := .empty
          environment := builtins })
    else .error .tooManyColumns
  else .error .noCells

/-! ## Looking at cells -/

def locate (b : Ledger) (row column : Int) : Except OutOfRange Location :=
  if inside : InBounds b.rows b.columns row column then
    .ok ⟨row.toNat, ⟨column.toNat, by have := b.columns_le; have := inside.2.2; omega⟩⟩
  else .error (.of b.rows b.columns row column)

def check (b : Ledger) (l : Location) : Except OutOfRange Unit :=
  if l.row < b.rows ∧ l.column.val < b.columns then .ok ()
  else .error (.of b.rows b.columns l.row l.column.val)

def stored (b : Ledger) (l : Location) : Except Failure Formula :=
  match b.formulas.get? l with
  | some f => .ok f
  | none => .error (.missing l.name)

def evaluate (b : Ledger) (l : Location) (limit : Nat := callLimit) : Except EvalError Value :=
  valueWithin b.environment.get? limit (.reference l.name)

def formulaAt (b : Ledger) (l : Location) : Except Failure Formula := do
  (b.check l).mapError .outOfRange
  b.stored l

def valueAt (b : Ledger) (l : Location) (limit : Nat := callLimit) : Except Failure Formula := do
  (b.check l).mapError .outOfRange
  match b.evaluate l limit with
  | .ok value => return value.formula
  | .error _ => b.stored l

def cellsByName (b : Ledger) : Table String Location :=
  .ofList (b.formulas.keys.map fun l => (l.name, l))

def cellNamed (b : Ledger) (name : String) : Except Failure Location :=
  match b.cellsByName.get? name with
  | some l => .ok l
  | none => .error (.missing name)

def graph (b : Ledger) : Graph :=
  .ofFormulas (b.formulas.entries.map fun entry => (entry.1.name, entry.2))

def usedByAt (b : Ledger) (l : Location) : Except Failure (List Location) := do
  (b.check l).mapError .outOfRange
  let cells ← (b.graph.affected [l.name]).mapM b.cellNamed
  return Location.sorted cells

def formulaView (b : Ledger) (row column : Int) : Except Failure Tile := do
  let l ← (b.locate row column).mapError .outOfRange
  let f ← b.formulaAt l
  (Tile.ofFormula f).mapError CellError.failure

def valueView (b : Ledger) (row column : Int) (limit : Nat := callLimit) :
    Except Failure Tile := do
  let l ← (b.locate row column).mapError .outOfRange
  let f ← b.valueAt l limit
  (Tile.ofFormula f).mapError CellError.failure

/-! ## Edits -/

def firstFailure? (b : Ledger) (cells : List Location) (limit : Nat := callLimit) :
    Option EvalError :=
  cells.findSome? fun l =>
    match b.evaluate l limit with
    | .ok _ => none
    | .error cause => some cause

/-- What an update looks up before it writes: the formula that the cell holds, and the cells that
read it and have a value. -/
def prepare (b : Ledger) (l : Location) (limit : Nat := callLimit) :
    Except Failure (Formula × List Location) := do
  let previous ← b.formulaAt l
  let readers ← b.usedByAt l
  return (previous, readers.filter fun c => (b.evaluate c (limit - Sheet.askingCalls)).isOk)

def rejection (l : Location) (previous : Formula) (cause : EvalError) : Failure :=
  match previous.render with
  | .ok kept => .rejected ⟨l, kept, cause⟩
  | .error limit => .digits limit

def update (b : Ledger) (l : Location) (f : Formula) (limit : Nat := callLimit) :
    Except Failure Unit × Ledger :=
  match b.prepare l limit with
  | .error e => (.error e, b)
  | .ok (previous, healthy) =>
    let changed := b.install l f
    match changed.firstFailure? (l :: healthy) limit with
    | none => (.ok (), changed)
    | some cause => (.error (rejection l previous cause), changed.install l previous)

def enter (b : Ledger) (row column : Int) (text : String) (limit : Nat := callLimit) :
    Except Failure Outcome × Ledger :=
  match b.locate row column with
  | .error e => (.error (.outOfRange e), b)
  | .ok l =>
    match b.grammar.parse text with
    | .error (.unrecognised _) => (.ok (.unparsable text), b)
    | .error (.digits e) => (.error (.digits e), b)
    | .ok f =>
      match b.update l f limit with
      | (.ok (), next) => (.ok .accepted, next)
      | (.error (.rejected r), next) => (.ok (.rejected r.cause.message), next)
      | (.error e, next) => (.error e, next)

def edit (b : Ledger) : Edit → Except Failure Outcome × Ledger
  | .update l f limit => ((b.update l f limit).1.map fun _ => .accepted, (b.update l f limit).2)
  | .clear l limit =>
    ((b.update l b.background limit).1.map fun _ => .accepted, (b.update l b.background limit).2)
  | .enter row column text limit => b.enter row column text limit

/-! ## Calls -/

def call (b : Ledger) : Call → Except Failure Answer × Ledger
  | .edit e => ((b.edit e).1.map .edited, (b.edit e).2)
  | .formulaAt l => ((b.formulaAt l).map .formula, b)
  | .valueAt l limit => ((b.valueAt l limit).map .formula, b)
  | .usedByAt l => ((b.usedByAt l).map .cells, b)
  | .formulaView row column => ((b.formulaView row column).map .tile, b)
  | .valueView row column limit => ((b.valueView row column limit).map .tile, b)

def run (b : Ledger) (calls : List Call) : Ledger :=
  stateAfter call b calls

def answers (b : Ledger) (calls : List Call) : List (Except Failure Answer) :=
  answersOf call b calls

def write? (b : Ledger) : Call → Option (Location × Formula)
  | .edit (.update l f _) => some (l, f)
  | .edit (.clear l _) => some (l, b.background)
  | .edit (.enter row column text _) =>
    match b.locate row column, b.grammar.parse text with
    | .ok l, .ok f => some (l, f)
    | _, _ => none
  | _ => none

end Ledger

end FormulaGrid
