namespace FormulaGrid.Text

/-- Inclusive ranges of code points, in ascending order. -/
abbrev Ranges := List (Nat × Nat)

def Ranges.has : Ranges → Nat → Bool
  | [], _ => false
  | (low, high) :: rest, n => if n ≤ high then decide (low ≤ n) else Ranges.has rest n

theorem Ranges.has_cons {low high n : Nat} {rest : Ranges} :
    Ranges.has ((low, high) :: rest) n = if n ≤ high then decide (low ≤ n) else rest.has n := rfl

theorem Ranges.exists_of_has {ranges : Ranges} {n : Nat} (h : ranges.has n = true) :
    ∃ r ∈ ranges, r.1 ≤ n ∧ n ≤ r.2 := by
  induction ranges with
  | nil => cases h
  | cons r rest ih =>
    rw [has_cons] at h
    split at h
    · rename_i le
      exact ⟨r, List.mem_cons_self, of_decide_eq_true h, le⟩
    · obtain ⟨s, mem, le⟩ := ih h
      exact ⟨s, List.mem_cons_of_mem _ mem, le⟩

end FormulaGrid.Text
