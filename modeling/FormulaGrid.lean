import FormulaGrid.Datum
import FormulaGrid.Demo
import FormulaGrid.Draft
import FormulaGrid.Evaluation
import FormulaGrid.Evaluation.Checked
import FormulaGrid.Evaluation.Plain
import FormulaGrid.Evaluation.Reads
import FormulaGrid.Evaluation.Recorded
import FormulaGrid.Formula.Basic
import FormulaGrid.Formula.Checked
import FormulaGrid.Formula.Grammar
import FormulaGrid.Formula.Normal
import FormulaGrid.Formula.Number
import FormulaGrid.Formula.Pieces
import FormulaGrid.Formula.Sums
import FormulaGrid.Formula.Written
import FormulaGrid.Graph
import FormulaGrid.Grid
import FormulaGrid.Ledger
import FormulaGrid.Location
import FormulaGrid.Location.Checked
import FormulaGrid.Operator
import FormulaGrid.Proofs.CellNames
import FormulaGrid.Proofs.Drafts
import FormulaGrid.Proofs.Evaluation.Checked
import FormulaGrid.Proofs.Evaluation.Cycles
import FormulaGrid.Proofs.Evaluation.Depth
import FormulaGrid.Proofs.Evaluation.Failures
import FormulaGrid.Proofs.Evaluation.Follows
import FormulaGrid.Proofs.Evaluation.Guard
import FormulaGrid.Proofs.Evaluation.Limits
import FormulaGrid.Proofs.Evaluation.Locality
import FormulaGrid.Proofs.Evaluation.Memo
import FormulaGrid.Proofs.Evaluation.Operands
import FormulaGrid.Proofs.Evaluation.Order
import FormulaGrid.Proofs.Evaluation.Path
import FormulaGrid.Proofs.Evaluation.Recorded
import FormulaGrid.Proofs.Evaluation.Results
import FormulaGrid.Proofs.Evaluation.Solutions
import FormulaGrid.Proofs.Formula.Attempts
import FormulaGrid.Proofs.Formula.Blame
import FormulaGrid.Proofs.Formula.Built
import FormulaGrid.Proofs.Formula.Names
import FormulaGrid.Proofs.Formula.ReadForms
import FormulaGrid.Proofs.Formula.Reading
import FormulaGrid.Proofs.Formula.Refusal
import FormulaGrid.Proofs.Formula.RoundTrip
import FormulaGrid.Proofs.Formula.Sums
import FormulaGrid.Proofs.Formula.WellFormed
import FormulaGrid.Proofs.Formula.WrittenForms
import FormulaGrid.Proofs.Graph.Histories
import FormulaGrid.Proofs.Graph.Registered
import FormulaGrid.Proofs.Graph.Search
import FormulaGrid.Proofs.Ledger.Agreement
import FormulaGrid.Proofs.Ledger.Entries
import FormulaGrid.Proofs.Ledger.Reentry
import FormulaGrid.Proofs.Ledger.Runs
import FormulaGrid.Proofs.Ledger.Views
import FormulaGrid.Proofs.Location.Names
import FormulaGrid.Proofs.Location.Reading
import FormulaGrid.Proofs.Locations
import FormulaGrid.Proofs.Outcomes
import FormulaGrid.Proofs.Sheet.Builtins
import FormulaGrid.Proofs.Sheet.Cycles
import FormulaGrid.Proofs.Sheet.Edits
import FormulaGrid.Proofs.Sheet.Entering
import FormulaGrid.Proofs.Sheet.Failures
import FormulaGrid.Proofs.Sheet.Health
import FormulaGrid.Proofs.Sheet.Names
import FormulaGrid.Proofs.Sheet.Readers
import FormulaGrid.Proofs.Sheet.Recheck
import FormulaGrid.Proofs.Sheet.Values
import FormulaGrid.Proofs.Tables
import FormulaGrid.Proofs.Text.Classes
import FormulaGrid.Proofs.Text.Digits
import FormulaGrid.Proofs.Text.Integers
import FormulaGrid.Proofs.Text.Parts
import FormulaGrid.Proofs.Text.Trimming
import FormulaGrid.Sheet.Basic
import FormulaGrid.Sheet.Call
import FormulaGrid.Sheet.Edit
import FormulaGrid.Sheet.Show
import FormulaGrid.Table
import FormulaGrid.Template
import FormulaGrid.Text.Alphanumeric
import FormulaGrid.Text.Blank
import FormulaGrid.Text.Decimal
import FormulaGrid.Text.Integer
import FormulaGrid.Text.Printable
import FormulaGrid.Text.Quoted
import FormulaGrid.Text.Ranges
import FormulaGrid.Text.Shortest
import FormulaGrid.View
