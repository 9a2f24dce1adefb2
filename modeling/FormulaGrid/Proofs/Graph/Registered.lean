import FormulaGrid.Proofs.Graph.Search

namespace FormulaGrid.Graph
open Relation

/-! ## One name more or less -/

def listed (table : Table String (List String)) (name : String) : List String :=
  (table.get? name).getD []

variable {table : Table String (List String)} {reader other name listing : String}

theorem mem_listed_dropReader : other ∈ listed (dropReader reader table name) listing ↔
    other ∈ listed table listing ∧ ¬(other = reader ∧ listing = name) := by
  unfold dropReader listed
  cases entry : table.get? name with
  | none =>
      by_cases same : listing = name
      · simp [same, entry]
      · simp [same]
  | some list =>
      simp only [Table.get?_set]
      by_cases same : listing = name
      · simp [same, entry]
      · simp [same]

theorem mem_listed_addReader : other ∈ listed (addReader reader table name) listing ↔
    other ∈ listed table listing ∨ other = reader ∧ listing = name := by
  unfold addReader listed
  rw [Table.get?_set]
  by_cases same : listing = name
  · simp [same, or_comm]
  · simp [same]

theorem mem_listed_dropReaders {names : List String} :
    other ∈ listed (names.foldl (dropReader reader) table) listing ↔
      other ∈ listed table listing ∧ ¬(other = reader ∧ listing ∈ names) := by
  induction names generalizing table with
  | nil => simp
  | cons first rest ih =>
      rw [List.foldl_cons, ih, mem_listed_dropReader, List.mem_cons]
      tauto

theorem mem_listed_addReaders {names : List String} :
    other ∈ listed (names.foldl (addReader reader) table) listing ↔
      other ∈ listed table listing ∨ other = reader ∧ listing ∈ names := by
  induction names generalizing table with
  | nil => simp
  | cons first rest ih =>
      rw [List.foldl_cons, ih, mem_listed_addReader, List.mem_cons]
      tauto

/-! ## Registering a formula -/

def Reads (g : Graph) (reader name : String) : Prop :=
  name ∈ g.readsOf reader

def Mirrored (g : Graph) : Prop :=
  ∀ reader name, g.ReadBy reader name ↔ g.Reads reader name

variable {g : Graph} {f : Formula}

theorem reads_add_iff : (g.add reader f).Reads other name ↔
    if other = reader then name ∈ f.names else g.Reads other name := by
  unfold Reads readsOf add
  rw [Table.get?_set]
  split
  · exact Formula.mem_dependencies
  · exact Iff.rfl

theorem Mirrored.add (mirrored : g.Mirrored) : (g.add reader f).Mirrored := by
  intro other name
  rw [reads_add_iff]
  have listing := mirrored other name
  unfold ReadBy Reads at listing
  show other ∈ listed (f.dependencies.foldl (addReader reader)
    ((g.readsOf reader).foldl (dropReader reader) g.readers)) name ↔ _
  rw [mem_listed_addReaders, mem_listed_dropReaders, Formula.mem_dependencies]
  show (other ∈ g.readersOf name ∧ _ ∨ _) ↔ _
  rw [listing]
  split
  · rename_i same
    subst same
    tauto
  · rename_i different
    unfold Reads
    tauto

theorem mirrored_empty : empty.Mirrored := by
  intro reader name
  exact iff_of_false List.not_mem_nil List.not_mem_nil

/-! ## Graphs of formulas -/

theorem ofFormulas_append_singleton (formulas : List (String × Formula)) (name : String)
    (f : Formula) : ofFormulas (formulas ++ [(name, f)]) = (ofFormulas formulas).add name f := by
  simp [ofFormulas, List.foldl_append]

theorem mirrored_ofFormulas (formulas : List (String × Formula)) :
    (ofFormulas formulas).Mirrored := by
  induction formulas using List.reverseRecOn with
  | nil => exact mirrored_empty
  | append_singleton formulas last ih =>
      rw [ofFormulas_append_singleton]
      exact ih.add

theorem reads_ofFormulas_iff {formulas : List (String × Formula)} :
    (ofFormulas formulas).Reads reader name ↔
      ∃ f, (Table.ofList formulas).get? reader = some f ∧ name ∈ f.names := by
  induction formulas using List.reverseRecOn with
  | nil => exact iff_of_false List.not_mem_nil nofun
  | append_singleton formulas last ih =>
      rw [ofFormulas_append_singleton, Table.ofList_append_singleton, reads_add_iff,
        Table.get?_set]
      split
      · simp
      · exact ih

theorem mem_affected_ofFormulas_iff {formulas : List (String × Formula)} {changed : List String} :
    name ∈ (ofFormulas formulas).affected changed ↔
      ∃ start ∈ changed, TransGen (ofFormulas formulas).Reads name start := by
  have same : (ofFormulas formulas).ReadBy = (ofFormulas formulas).Reads := by
    funext reader name
    exact propext (mirrored_ofFormulas formulas reader name)
  rw [mem_affected_iff, same]

/-! ## Readers through several formulas -/

def ReadsLast (formulas : List (String × Formula)) (reader name : String) : Prop :=
  ∃ f, (Table.ofList formulas).get? reader = some f ∧ name ∈ f.dependencies

theorem reads_eq_readsLast (formulas : List (String × Formula)) :
    (ofFormulas formulas).Reads = ReadsLast formulas := by
  funext reader name
  apply propext
  rw [reads_ofFormulas_iff, ReadsLast]
  simp only [Formula.mem_dependencies]

/-- The search ends, at the latest after a step for each changed name and each entry in the table of
readers, and has then found the names from which formulas lead to a changed name. -/
theorem affected_exact (formulas : List (String × Formula)) (changed : List String) :
    (∀ steps, changed.length + (ofFormulas formulas).readerCount ≤ steps →
      ((Search.start changed).run (ofFormulas formulas) steps).queue = [] ∧
      ((Search.start changed).run (ofFormulas formulas) steps).found =
        (ofFormulas formulas).affected changed) ∧
    ((ofFormulas formulas).affected changed).Nodup ∧
    ∀ name, name ∈ (ofFormulas formulas).affected changed ↔
      ∃ start ∈ changed, TransGen (ReadsLast formulas) name start := by
  refine ⟨fun steps enough => run_of_enough enough, nodup_affected changed, fun name => ?_⟩
  rw [mem_affected_ofFormulas_iff, reads_eq_readsLast]

-- two changed names read themselves, one of them through another name, and the third does not
example : (ofFormulas [("a", .reference "b"), ("b", .reference "a"), ("c", .reference "c"),
    ("d", .constant 0), ("e", .reference "d")]).affected ["a", "c", "d"] = ["a", "e", "c", "b"] := by
  decide

end FormulaGrid.Graph
