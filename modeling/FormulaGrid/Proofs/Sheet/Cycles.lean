import FormulaGrid.Proofs.Evaluation.Cycles
import FormulaGrid.Proofs.Sheet.Health

namespace FormulaGrid.Sheet
open Relation

variable {s next : Sheet} {l : Location} {f : Formula} {limit : Nat}

theorem not_mem_of_isCycle (healthy : s.evaluates l limit = true) {names : Cycle String}
    (cycle : s.bindings.IsCycle names) : l.name ∉ names := by
  intro member
  obtain ⟨value, done⟩ := evaluates_iff.mp healthy
  exact not_reads_itself_of_ok done (.self l.name) (cycle.reads_itself member)

theorem isCycle_of_update (updated : s.update l f limit = .ok next) {names : Cycle String}
    (cycle : next.bindings.IsCycle names) : l.name ∉ names ∧ s.bindings.IsCycle names := by
  obtain ⟨inside, rfl, checked⟩ := update_eq_ok_iff.mp updated
  have away := not_mem_of_isCycle (checked l List.mem_cons_self) cycle
  refine ⟨away, cycle.congr fun name member => ?_⟩
  rw [bindings_install inside, Function.update_of_ne]
  rintro rfl
  exact away member

theorem acyclic_of_create {grammar : Grammar} {builtins : Table String Formula}
    {background : Formula} {rows columns : Int}
    (created : create grammar builtins background rows columns = .ok s)
    (quiet : background.names = [])
    (quietBuiltins : ∀ name f, s.builtins.get? name = some f → f.names = []) :
    s.bindings.Acyclic := by
  apply Bindings.acyclic_of_no_names
  intro name f bound
  unfold bindings at bound
  split at bound
  · cases bound
    rwa [formula_of_create created]
  · exact quietBuiltins name f bound

theorem acyclic_run (acyclic : s.bindings.Acyclic) (edits : List Edit) :
    (s.run edits).bindings.Acyclic := by
  refine run_induction (fun t => t.bindings.Acyclic) ?_ acyclic edits
  intro t l f limit next acyclic updated names cycle
  exact acyclic names (isCycle_of_update updated cycle).2

theorem not_mem_usedBy_self (acyclic : s.bindings.Acyclic) (c : Location) : c ∉ s.usedBy c := by
  intro member
  obtain ⟨inside, chain⟩ := mem_usedBy_iff.mp member
  have chain := reads_of_graph_reads chain (isSome_bindings_name inside)
  obtain ⟨names, cycle, -⟩ := Bindings.exists_isCycle chain
  exact acyclic names cycle

/-- The cell of an accepted edit is on no circle, and whatever circle there is was there before. So
without a circle at first there is none after any run of edits. -/
theorem edit_adds_no_cycle (s : Sheet) :
    (∀ e next, s.edit e = .ok (.accepted, next) → ∃ l, s.target? e = some l ∧
      ∀ names, next.bindings.IsCycle names → l.name ∉ names ∧ s.bindings.IsCycle names) ∧
    (s.bindings.Acyclic → ∀ edits, (s.run edits).bindings.Acyclic ∧
      ∀ c, c ∉ (s.run edits).usedBy c) := by
  constructor
  · intro e next done
    rcases edit_ok done with ⟨-, l, f, target, updated⟩ | ⟨other, -⟩
    · exact ⟨l, target, fun names => isCycle_of_update updated⟩
    · exact absurd rfl other
  · intro acyclic edits
    have remains := acyclic_run acyclic edits
    exact ⟨remains, not_mem_usedBy_self remains⟩

theorem edit_adds_no_cycle_two_cells : ∃ s next : Sheet,
    create .stock .empty .empty 1 2 = .ok s ∧ s.bindings.Acyclic ∧
    s.edit (.enter 0 0 "B0") = .ok (.accepted, next) ∧
    (∀ names, next.bindings.IsCycle names → s.bindings.IsCycle names) ∧
    (s.run [.enter 0 0 "B0", .enter 0 1 "A0"]).bindings.Acyclic := by
  obtain ⟨s, next, created, noBuiltins, accepted⟩ : ∃ s next : Sheet,
      create .stock .empty .empty 1 2 = .ok s ∧ s.builtins = .empty ∧
      s.edit (.enter 0 0 "B0") = .ok (.accepted, next) := ⟨_, _, rfl, rfl, rfl⟩
  have acyclic : s.bindings.Acyclic := by
    refine acyclic_of_create created rfl fun name f entry => ?_
    rw [noBuiltins] at entry
    cases entry
  have result := edit_adds_no_cycle s
  obtain ⟨l, -, old⟩ := result.1 _ _ accepted
  exact ⟨s, next, created, acyclic, accepted, fun names cycle => (old names cycle).2,
    (result.2 acyclic _).1⟩

end FormulaGrid.Sheet
