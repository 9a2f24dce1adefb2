import FormulaGrid.Proofs.Evaluation.Locality
import FormulaGrid.Proofs.Graph.Registered
import FormulaGrid.Proofs.Sheet.Names

namespace FormulaGrid.Sheet
open Relation

variable {s : Sheet} {l c : Location} {limit : Nat}

theorem graph_reads_iff {reader name : String} : s.graph.Reads reader name ↔
    ∃ c, s.Contains c ∧ c.name = reader ∧ name ∈ (s.formula c).names := by
  rw [graph, Graph.reads_ofFormulas_iff]
  constructor
  · rintro ⟨f, entry, reads⟩
    obtain ⟨c, member, same⟩ := List.mem_map.mp (Table.mem_of_get?_ofList entry)
    cases same
    exact ⟨c, mem_cells.mp member, rfl, reads⟩
  · rintro ⟨c, inside, rfl, reads⟩
    have member : (c.name, s.formula c) ∈ s.cells.map fun l => (l.name, s.formula l) :=
      List.mem_map_of_mem (mem_cells.mpr inside)
    obtain ⟨f, entry⟩ := Option.isSome_iff_exists.mp (Table.isSome_get?_ofList member)
    obtain ⟨d, -, same⟩ := List.mem_map.mp (Table.mem_of_get?_ofList entry)
    obtain ⟨named, rfl⟩ := Prod.mk.inj same
    obtain rfl := Location.name_injective named
    exact ⟨s.formula d, entry, reads⟩

theorem mem_usedBy_iff :
    c ∈ s.usedBy l ↔ s.Contains c ∧ TransGen s.graph.Reads c.name l.name := by
  unfold usedBy
  simp only [List.mem_filter, mem_cells, decide_eq_true_eq]
  rw [graph, Graph.mem_affected_ofFormulas_iff]
  simp

theorem reads_of_graph_reads {reader name : String} (chain : TransGen s.graph.Reads reader name)
    (bound : (s.bindings name).isSome) : TransGen s.bindings.Reads reader name := by
  have reads : ∀ {reader name}, s.graph.Reads reader name → (s.bindings name).isSome →
      s.bindings.Reads reader name := by
    intro reader name read bound
    obtain ⟨c, inside, rfl, member⟩ := graph_reads_iff.mp read
    exact ⟨s.formula c, bindings_name inside, member, bound⟩
  induction chain using TransGen.head_induction_on with
  | single read => exact .single (reads read bound)
  | @head reader via read _ ih =>
      obtain ⟨_, ⟨f, found, -⟩, -⟩ := TransGen.head'_iff.mp ih
      exact .head (reads read (by rw [found]; rfl)) ih

/-- The formula of a cell reaches a built-in name, and the formula of this one reaches another
cell. -/
def ReadsThroughBuiltin (s : Sheet) (c l : Location) : Prop :=
  ∃ name f, s.builtins.get? name = some f ∧ s.bindings.Reaches (s.formula c) name ∧
    s.bindings.Reaches f l.name

theorem mem_usedBy_or_readsThroughBuiltin (present : s.Contains c)
    (reached : s.bindings.Reaches (s.formula c) l.name) :
    c ∈ s.usedBy l ∨ s.ReadsThroughBuiltin c l := by
  generalize start : s.formula c = f at reached
  generalize goal : l.name = name at reached
  induction reached generalizing c with
  | here member =>
      subst start goal
      have read := graph_reads_iff.mpr ⟨c, present, rfl, member⟩
      exact .inl (mem_usedBy_iff.mpr ⟨present, .single read⟩)
  | @through f g via name member found rest ih =>
      subst start goal
      by_cases cell : ∃ d, s.Contains d ∧ d.name = via
      · obtain ⟨d, onSheet, rfl⟩ := cell
        have bound := bindings_name onSheet
        rw [bound] at found
        rcases ih onSheet (Option.some.inj found) rfl with used | ⟨builtin, h, entry, first, next⟩
        · have read := graph_reads_iff.mpr ⟨c, present, rfl, member⟩
          exact .inl (mem_usedBy_iff.mpr ⟨present, .head read (mem_usedBy_iff.mp used).2⟩)
        · exact .inr ⟨builtin, h, entry, .through member bound first, next⟩
      · have noCell : ∀ d, s.Contains d → d.name ≠ via := fun d there same => cell ⟨d, there, same⟩
        rw [bindings_of_no_cell noCell] at found
        exact .inr ⟨via, g, found, .here member, rest⟩

theorem evaluate_install_of_not_reads (inside : s.Contains l) (present : s.Contains c)
    (other : c ≠ l) (direct : c ∉ s.usedBy l) (indirect : ¬s.ReadsThroughBuiltin c l)
    (f : Formula) : (s.install l f).evaluate c limit = s.evaluate c limit := by
  unfold evaluate
  symm
  apply valueWithin_congr
  intro name reached
  have away : name ≠ l.name := by
    rintro rfl
    rcases Bindings.reaches_reference_iff.mp reached with same | ⟨g, found, reached⟩
    · exact other (Location.name_injective same).symm
    · rw [bindings_name present] at found
      cases found
      exact (mem_usedBy_or_readsThroughBuiltin present reached).elim direct indirect
  rw [bindings_install inside, Function.update_of_ne away]

def BuiltinsReadNoCell (s : Sheet) : Prop :=
  ∀ name f, s.builtins.get? name = some f → ∀ c, s.Contains c → c.name ∉ f.names

theorem BuiltinsReadNoCell.install (apart : s.BuiltinsReadNoCell) (l : Location) (f : Formula) :
    (s.install l f).BuiltinsReadNoCell := apart

theorem ne_of_reaches (apart : s.BuiltinsReadNoCell) {f : Formula} {name : String}
    (away : ∀ c, s.Contains c → c.name ∉ f.names) (reached : s.bindings.Reaches f name) :
    ∀ c, s.Contains c → c.name ≠ name := by
  apply reached.mem_of_closed
  · rintro next member c inside rfl
    exact away c inside member
  · rintro via g noCell found next member c inside rfl
    rw [bindings_of_no_cell noCell] at found
    exact apart via g found c inside member

theorem BuiltinsReadNoCell.not_readsThroughBuiltin (apart : s.BuiltinsReadNoCell)
    (inside : s.Contains l) : ¬s.ReadsThroughBuiltin c l := by
  rintro ⟨name, f, entry, -, reached⟩
  exact ne_of_reaches apart (apart name f entry) reached l inside rfl

theorem evaluate_install_of_not_mem_usedBy (apart : s.BuiltinsReadNoCell) (inside : s.Contains l)
    (present : s.Contains c) (other : c ≠ l) (unaffected : c ∉ s.usedBy l) (f : Formula) :
    (s.install l f).evaluate c limit = s.evaluate c limit :=
  evaluate_install_of_not_reads inside present other unaffected
    (apart.not_readsThroughBuiltin inside) f

end FormulaGrid.Sheet
