import FormulaGrid.Proofs.Sheet.Health

namespace FormulaGrid.Sheet
variable {s : Sheet} {l : Location} {asked limit : Nat}

end FormulaGrid.Sheet
