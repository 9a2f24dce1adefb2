import FormulaGrid.Location
import FormulaGrid.Proofs.Text.Integers

namespace FormulaGrid.Location
open Text

theorem columnOf?_letter (l : Location) : columnOf? l.letter = some l.column := by
  have letters : ∀ column : Fin 26, columnOf? (Char.ofNat (65 + column.val)) = some column := by
    decide
  exact letters l.column

theorem denoted?_name (l : Location) : denoted? l.name = some l := by
  have parts : parts? (l.letter :: Nat.toDigits 10 l.row) =
      some (l.column, Nat.toDigits 10 l.row) := by
    simp only [parts?, isDigits_toDigits, if_true, columnOf?_letter, Option.map_some]
  simp only [denoted?, name, String.toList_ofList, parts, Option.map_some,
    Nat.ofDigitChars_ten_toDigits]

theorem name_ne_empty (l : Location) : l.name ≠ "" := by
  intro same
  have letters : l.letter :: Nat.toDigits 10 l.row = [] := by
    rw [← String.toList_ofList (l := l.letter :: Nat.toDigits 10 l.row), ← name, same]
    rfl
  cases letters

theorem ofName?_eq_some_iff {name : String} {l : Location} :
    ofName? name = some l ↔ l.name = name := by
  simp only [ofName?, Option.filter_eq_some_iff, decide_eq_true_eq]
  constructor
  · exact fun h => h.2
  · rintro rfl
    exact ⟨denoted?_name l, rfl⟩

theorem name_injective : Function.Injective name := by
  intro a b same
  have read := ofName?_eq_some_iff.mpr same
  rw [ofName?_eq_some_iff.mpr rfl] at read
  exact (Option.some.inj read).symm

end FormulaGrid.Location
