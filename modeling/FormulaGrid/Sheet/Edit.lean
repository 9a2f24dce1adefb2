import FormulaGrid.Formula.Written
import FormulaGrid.Sheet.Basic
import FormulaGrid.View

/-!
An edit is taken only if its cell has a value afterwards and so has every healthy reader of the cell,
which is one that had a value before. Whether a reader is healthy is found out further down the stack
than whether it has a value afterwards, so a reader whose evaluation only just fits is passed over.

A rejection names the first cause and the formula that the cell keeps. If that formula is too long to
be written, the edit fails with that instead.
-/

namespace FormulaGrid
open Text

structure Rejection where
  cell : Location
  kept : String
  cause : EvalError
  deriving DecidableEq, Repr

inductive EditError where
  | outOfRange (e : OutOfRange)
  | rejected (r : Rejection)
  | digits (limit : DigitLimit)
  deriving DecidableEq, Repr

def EditError.message : EditError → String
  | .outOfRange e => e.message
  | .rejected r => r.cause.message
  | .digits limit => limit.message

namespace Sheet

/-- The calls that stand between an update and the evaluation that finds out whether a reader is
healthy, beyond those between the update and any other evaluation. -/
def askingCalls : Nat := 2

def healthyReaders (s : Sheet) (l : Location) (limit : Nat := callLimit) : List Location :=
  (s.usedBy l).filter fun c => s.evaluates c (limit - askingCalls)

def firstFailure? (s : Sheet) (cells : List Location) (limit : Nat := callLimit) :
    Option EvalError :=
  cells.findSome? fun l =>
    match s.evaluate l limit with
    | .ok _ => none
    | .error cause => some cause

def reject (s : Sheet) (l : Location) (cause : EvalError) : EditError :=
  match (s.formula l).render with
  | .ok kept => .rejected ⟨l, kept, cause⟩
  | .error limit => .digits limit

def update (s : Sheet) (l : Location) (f : Formula) (limit : Nat := callLimit) :
    Except EditError Sheet := do
  (s.check l).mapError .outOfRange
  let next := s.install l f
  match next.firstFailure? (l :: s.healthyReaders l limit) limit with
  | none => return next
  | some cause => throw (s.reject l cause)

section
variable {s next : Sheet} {l : Location} {f : Formula} {limit : Nat}

theorem firstFailure?_eq_none_iff {cells : List Location} :
    s.firstFailure? cells limit = none ↔ ∀ c ∈ cells, s.evaluates c limit = true := by
  unfold firstFailure?
  rw [List.findSome?_eq_none_iff]
  refine forall_congr' fun c => forall_congr' fun _ => ?_
  rw [evaluates_iff]
  cases s.evaluate c limit <;> simp

theorem update_of_contains (inside : s.Contains l) (f : Formula) (limit : Nat) :
    s.update l f limit =
      match (s.install l f).firstFailure? (l :: s.healthyReaders l limit) limit with
      | none => .ok (s.install l f)
      | some cause => .error (s.reject l cause) := by
  unfold update check
  rw [if_pos inside]
  rfl

theorem update_of_not_contains (outside : ¬s.Contains l) (f : Formula) (limit : Nat) :
    s.update l f limit =
      .error (.outOfRange (.of s.grid.rows s.grid.columns l.row l.column.val)) := by
  unfold update check
  rw [if_neg outside]
  rfl

theorem update_eq_ok_iff : s.update l f limit = .ok next ↔ s.Contains l ∧ next = s.install l f ∧
    ∀ c ∈ l :: s.healthyReaders l limit, (s.install l f).evaluates c limit = true := by
  rw [← firstFailure?_eq_none_iff]
  by_cases inside : s.Contains l
  · rw [update_of_contains inside]
    split
    · rename_i healthy
      simp [inside, healthy, eq_comm]
    · rename_i cause failed
      simp [failed]
  · simp [update_of_not_contains inside, inside]

end

def clear (s : Sheet) (l : Location) (limit : Nat := callLimit) : Except EditError Sheet :=
  s.update l s.grid.background limit

/-- The outcome of entering a text at coordinates, and the sheet after it. A text that is no formula
and a formula that is rejected are outcomes; the sheet stays as it was. -/
def enter (s : Sheet) (row column : Int) (text : String) (limit : Nat := callLimit) :
    Except EditError (Outcome × Sheet) := do
  let l ← (s.locate row column).mapError .outOfRange
  match s.grammar.parse text with
  | .error (.unrecognised _) => return (.unparsable text, s)
  | .error (.digits e) => throw (.digits e)
  | .ok f =>
    match s.update l f limit with
    | .ok next => return (.accepted, next)
    | .error (.rejected r) => return (.rejected r.cause.message, s)
    | .error e => throw e

end Sheet

/-- Edits may be made from anywhere, so each one has its own limit. -/
inductive Edit where
  | update (l : Location) (f : Formula) (limit : Nat := callLimit)
  | clear (l : Location) (limit : Nat := callLimit)
  | enter (row column : Int) (text : String) (limit : Nat := callLimit)

def Edit.limit : Edit → Nat
  | .update _ _ limit => limit
  | .clear _ limit => limit
  | .enter _ _ _ limit => limit

namespace Sheet

def edit (s : Sheet) : Edit → Except EditError (Outcome × Sheet)
  | .update l f limit => (s.update l f limit).map (.accepted, ·)
  | .clear l limit => (s.clear l limit).map (.accepted, ·)
  | .enter row column text limit => s.enter row column text limit

def after (s : Sheet) (e : Edit) : Sheet :=
  match s.edit e with
  | .ok (_, next) => next
  | .error _ => s

def run (s : Sheet) (edits : List Edit) : Sheet :=
  edits.foldl after s

end Sheet

end FormulaGrid
