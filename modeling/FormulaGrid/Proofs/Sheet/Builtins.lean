import FormulaGrid.Proofs.Evaluation.Cycles
import FormulaGrid.Proofs.Sheet.Readers
import FormulaGrid.Sheet.Edit

namespace FormulaGrid.Sheet

variable {s next : Sheet} {l c : Location} {f : Formula} {limit : Nat}

theorem reaches_of_mem_usedBy (inside : s.Contains l) (used : c ∈ s.usedBy l) :
    s.bindings.Reaches (s.formula c) l.name := by
  obtain ⟨present, chain⟩ := mem_usedBy_iff.mp used
  have chain := reads_of_graph_reads chain (isSome_bindings_name inside)
  exact Bindings.reaches_of_reads (bindings_name present) chain

theorem ReadsThroughBuiltin.reaches (indirect : s.ReadsThroughBuiltin c l) :
    s.bindings.Reaches (s.formula c) l.name := by
  obtain ⟨name, f, entry, first, rest⟩ := indirect
  exact first.trans (bindings_builtin entry) rest

theorem reaches_iff (inside : s.Contains l) (present : s.Contains c) :
    s.bindings.Reaches (s.formula c) l.name ↔ c ∈ s.usedBy l ∨ s.ReadsThroughBuiltin c l := by
  constructor
  · exact mem_usedBy_or_readsThroughBuiltin present
  · rintro (used | indirect)
    · exact reaches_of_mem_usedBy inside used
    · exact indirect.reaches

/-- A cell that is not among the readers of another one reads it through a built-in name or not at
all. In the latter case it keeps its value when an update of the other cell is accepted. -/
theorem update_keeps_value_of_not_mem_usedBy (present : s.Contains c) (other : c ≠ l)
    (unused : c ∉ s.usedBy l) (updated : s.update l f limit = .ok next) :
    (s.bindings.Reaches (s.formula c) l.name ↔ s.ReadsThroughBuiltin c l) ∧
    (¬s.ReadsThroughBuiltin c l → ∀ deep, next.evaluate c deep = s.evaluate c deep) := by
  obtain ⟨inside, rfl, -⟩ := update_eq_ok_iff.mp updated
  constructor
  · rw [reaches_iff inside present, or_iff_right unused]
  · intro notIndirect deep
    exact evaluate_install_of_not_reads inside present other unused notIndirect f

theorem update_keeps_value_of_number : ∃ fresh s next : Sheet,
    create .stock (.ofList [("link", .reference "A0"), ("ten", .constant 10)]) .empty 1 3 =
      .ok fresh ∧
    s = fresh.run [.enter 0 0 "1", .enter 0 1 "1 / link", .enter 0 2 "ten"] ∧
    s.Contains ⟨0, 2⟩ ∧ ⟨0, 2⟩ ∉ s.usedBy ⟨0, 0⟩ ∧
    s.update ⟨0, 0⟩ (.constant 5) callLimit = .ok next ∧
    ¬s.ReadsThroughBuiltin ⟨0, 2⟩ ⟨0, 0⟩ ∧
    ∀ deep, next.evaluate ⟨0, 2⟩ deep = s.evaluate ⟨0, 2⟩ deep := by
  obtain ⟨fresh, created, first, last, unused, accepted, formula, bound⟩ : ∃ fresh : Sheet,
      create .stock (.ofList [("link", .reference "A0"), ("ten", .constant 10)]) .empty 1 3 =
        .ok fresh ∧
      let s := fresh.run [.enter 0 0 "1", .enter 0 1 "1 / link", .enter 0 2 "ten"]
      s.Contains ⟨0, 0⟩ ∧ s.Contains ⟨0, 2⟩ ∧ ⟨0, 2⟩ ∉ s.usedBy ⟨0, 0⟩ ∧
        (∀ c ∈ ⟨0, 0⟩ :: s.healthyReaders ⟨0, 0⟩ callLimit,
          (s.install ⟨0, 0⟩ (.constant 5)).evaluates c callLimit = true) ∧
        s.formula ⟨0, 2⟩ = .reference "ten" ∧ s.bindings "ten" = some (.constant 10) :=
    ⟨_, rfl, by decide +kernel⟩
  have updated := update_eq_ok_iff.mpr ⟨first, rfl, accepted⟩
  obtain ⟨reads, keeps⟩ := update_keeps_value_of_not_mem_usedBy last (by decide) unused updated
  refine ⟨fresh, _, _, created, rfl, last, unused, updated, ?direct, keeps ?direct⟩
  rw [← reads, formula, Bindings.reaches_reference_iff, bound]
  rintro (same | ⟨_, ⟨⟩, reached⟩)
  · revert same
    decide
  · rcases reached with member | ⟨member, -, -⟩
    · cases member
    · cases member

/-- A built-in name that stands for the first cell hides the second cell from its readers: an update
of the first cell is accepted and takes the value of the second one away. -/
theorem usedBy_misses_builtin_reader : ∃ fresh s next : Sheet,
    create .stock (.ofList [("link", .reference "A0")]) .empty 1 2 = .ok fresh ∧
    s = fresh.run [.enter 0 0 "1", .enter 0 1 "1 / link"] ∧
    s.Contains ⟨0, 0⟩ ∧ s.Contains ⟨0, 1⟩ ∧ ⟨0, 1⟩ ∉ s.usedBy ⟨0, 0⟩ ∧
    s.update ⟨0, 0⟩ (.constant 0) callLimit = .ok next ∧
    s.evaluate ⟨0, 1⟩ callLimit = .ok (.number 1) ∧
    next.evaluate ⟨0, 1⟩ callLimit = .error (.rule .divisionByZero) := by
  obtain ⟨fresh, created, first, second, unused, accepted, before, after⟩ : ∃ fresh : Sheet,
      create .stock (.ofList [("link", .reference "A0")]) .empty 1 2 = .ok fresh ∧
      let s := fresh.run [.enter 0 0 "1", .enter 0 1 "1 / link"]
      s.Contains ⟨0, 0⟩ ∧ s.Contains ⟨0, 1⟩ ∧ ⟨0, 1⟩ ∉ s.usedBy ⟨0, 0⟩ ∧
        (∀ c ∈ ⟨0, 0⟩ :: s.healthyReaders ⟨0, 0⟩ callLimit,
          (s.install ⟨0, 0⟩ (.constant 0)).evaluates c callLimit = true) ∧
        s.evaluate ⟨0, 1⟩ callLimit = .ok (.number 1) ∧
        (s.install ⟨0, 0⟩ (.constant 0)).evaluate ⟨0, 1⟩ callLimit =
          .error (.rule .divisionByZero) :=
    ⟨_, rfl, by decide +kernel⟩
  exact ⟨fresh, _, _, created, rfl, first, second, unused,
    update_eq_ok_iff.mpr ⟨first, rfl, accepted⟩, before, after⟩

end FormulaGrid.Sheet
