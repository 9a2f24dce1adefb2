import FormulaGrid.Proofs.CellNames
import FormulaGrid.Sheet.Basic
import Mathlib.Logic.Function.Basic

namespace FormulaGrid.Sheet
variable {s : Sheet} {l c : Location} {f : Formula} {name : String}

theorem contains_install : (s.install l f).Contains c ↔ s.Contains c := Iff.rfl

theorem builtins_install : (s.install l f).builtins = s.builtins := rfl

theorem cellNamed?_eq_some_iff : s.cellNamed? name = some l ↔ s.Contains l ∧ l.name = name := by
  simp only [cellNamed?, Option.filter_eq_some_iff, decide_eq_true_eq,
    Location.ofName?_eq_some_iff, and_comm]

theorem bindings_name (inside : s.Contains l) : s.bindings l.name = some (s.formula l) := by
  unfold bindings
  rw [cellNamed?_eq_some_iff.mpr ⟨inside, rfl⟩]

theorem isSome_bindings_name (inside : s.Contains l) : (s.bindings l.name).isSome := by
  rw [bindings_name inside]
  rfl

theorem bindings_of_no_cell (noCell : ∀ c, s.Contains c → c.name ≠ name) :
    s.bindings name = s.builtins.get? name := by
  unfold bindings
  cases named : s.cellNamed? name with
  | none => rfl
  | some c =>
      obtain ⟨inside, same⟩ := cellNamed?_eq_some_iff.mp named
      exact absurd same (noCell c inside)

theorem bindings_builtin (entry : s.builtins.get? name = some f) : s.bindings name = some f := by
  rw [← entry]
  apply bindings_of_no_cell
  rintro c - rfl
  have listed : c.name ∈ s.builtins.keys := by
    rw [Table.mem_keys_iff, entry]
    rfl
  have apart := s.builtins_apart c.name listed
  rw [Location.denoted?_name] at apart
  cases apart

theorem bindings_install (inside : s.Contains l) :
    (s.install l f).bindings = Function.update s.bindings l.name (some f) := by
  funext name
  by_cases cell : ∃ c, s.Contains c ∧ c.name = name
  · obtain ⟨c, present, rfl⟩ := cell
    rw [bindings_name (contains_install.mpr present), formula_install, Function.update_apply,
      bindings_name present]
    simp only [Location.name_injective.eq_iff]
    split <;> rfl
  · have noCell : ∀ c, s.Contains c → c.name ≠ name := fun c present same => cell ⟨c, present, same⟩
    have after : (s.install l f).bindings name = (s.install l f).builtins.get? name :=
      bindings_of_no_cell noCell
    rw [Function.update_of_ne (noCell l inside).symm, bindings_of_no_cell noCell, after,
      builtins_install]

theorem bindings_install_formula (inside : s.Contains l) :
    (s.install l (s.formula l)).bindings = s.bindings := by
  rw [bindings_install inside, ← bindings_name inside, Function.update_eq_self]

end FormulaGrid.Sheet
