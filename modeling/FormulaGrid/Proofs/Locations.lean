import FormulaGrid.Ledger
import Mathlib.Data.List.Nodup
import Mathlib.Data.List.Sort

namespace FormulaGrid.Location
variable {a b c : Location}

theorem lt_iff : a < b ↔ a.row < b.row ∨ a.row = b.row ∧ a.column.val < b.column.val := Iff.rfl

theorem le_iff : a ≤ b ↔ a.row < b.row ∨ a.row = b.row ∧ a.column.val ≤ b.column.val := by
  have same : a = b ↔ a.row = b.row ∧ a.column.val = b.column.val := by
    cases a
    cases b
    simp [Fin.ext_iff]
  show a < b ∨ a = b ↔ _
  rw [lt_iff, same]
  omega

theorem le_trans (first : a ≤ b) (next : b ≤ c) : a ≤ c := by
  rw [le_iff] at *
  omega

theorem le_total (a b : Location) : a ≤ b ∨ b ≤ a := by
  rw [le_iff, le_iff]
  omega

theorem le_antisymm (le : a ≤ b) (ge : b ≤ a) : a = b := by
  rcases le with lt | same
  · rw [le_iff] at ge
    rw [lt_iff] at lt
    omega
  · exact same

theorem sorted_eq_of_perm {found cells : List Location} (perm : found.Perm cells)
    (ordered : cells.Pairwise (· < ·)) : sorted found = cells := by
  have increasing : (sorted found).Pairwise (· ≤ ·) := by
    have pairs : (sorted found).Pairwise fun a b => decide (a ≤ b) = true :=
      List.pairwise_mergeSort (fun a b c => by simpa using le_trans)
        (fun a b => by simpa using le_total a b) found
    exact pairs.imp of_decide_eq_true
  have same : (sorted found).Perm cells := (List.mergeSort_perm found _).trans perm
  exact same.eq_of_pairwise (fun a b _ _ => le_antisymm) increasing
    (ordered.imp fun lt => .inl lt)

theorem block_ordered (rows columns : Nat) : (block rows columns).Pairwise (· < ·) := by
  unfold block
  rw [List.pairwise_flatMap]
  constructor
  · intro row _
    rw [List.pairwise_map]
    refine (List.Pairwise.filter _ (List.pairwise_lt_finRange maxColumns)).imp ?_
    exact fun lt => .inr ⟨rfl, lt⟩
  · refine List.pairwise_lt_range.imp fun {first second} lt => ?_
    intro a inFirst b inSecond
    obtain ⟨_, -, rfl⟩ := List.mem_map.mp inFirst
    obtain ⟨_, -, rfl⟩ := List.mem_map.mp inSecond
    exact .inl lt

theorem nodup_of_ordered {cells : List Location} (ordered : cells.Pairwise (· < ·)) :
    cells.Nodup := by
  refine ordered.imp fun lt => ?_
  rintro rfl
  rw [lt_iff] at lt
  omega

end FormulaGrid.Location
