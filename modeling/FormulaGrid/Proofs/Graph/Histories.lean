import FormulaGrid.Proofs.Graph.Registered

namespace FormulaGrid.Graph

variable {table : Table String (List String)} {g : Graph} {reader name listing : String}
  {names : List String}

/-! ## Lists that are looked up -/

theorem takeReader_eq (isListed : (table.get? name).isSome) :
    takeReader reader table name = .ok (dropReader reader table name) := by
  obtain ⟨list, entry⟩ := Option.isSome_iff_exists.mp isListed
  simp only [takeReader, dropReader, entry]

theorem isSome_get?_dropReader (isListed : (table.get? listing).isSome) :
    ((dropReader reader table name).get? listing).isSome := by
  unfold dropReader
  split
  · exact isListed
  · rw [Table.get?_set]
    split
    · rfl
    · exact isListed

theorem foldlM_takeReader (areListed : ∀ name ∈ names, (table.get? name).isSome) :
    names.foldlM (takeReader reader) table = .ok (names.foldl (dropReader reader) table) := by
  induction names generalizing table with
  | nil => rfl
  | cons first rest ih =>
      obtain ⟨isListed, others⟩ := List.forall_mem_cons.mp areListed
      rw [List.foldlM_cons, takeReader_eq isListed]
      exact ih fun name member => isSome_get?_dropReader (others name member)

theorem Mirrored.isListed (mirrored : g.Mirrored) (read : g.Reads reader name) :
    (g.readers.get? name).isSome := by
  have reader := (mirrored reader name).mpr read
  unfold ReadBy readersOf at reader
  cases entry : g.readers.get? name with
  | none =>
      rw [entry] at reader
      cases reader
  | some list => rfl

theorem Mirrored.register (mirrored : g.Mirrored) (name : String) (f : Formula) :
    g.register name f = .ok (g.add name f) := by
  have dropped : (g.readsOf name).foldlM (takeReader name) g.readers =
      .ok ((g.readsOf name).foldl (dropReader name) g.readers) :=
    foldlM_takeReader fun _ read => mirrored.isListed read
  rw [Graph.register, dropped]
  rfl

theorem registerAll_eq (formulas : List (String × Formula)) :
    registerAll formulas = .ok (ofFormulas formulas) := by
  induction formulas using List.reverseRecOn with
  | nil => rfl
  | append_singleton formulas last ih =>
      have next := (mirrored_ofFormulas formulas).register last.1 last.2
      unfold registerAll at ih ⊢
      rw [List.foldlM_append, ih, ofFormulas_append_singleton, ← next]
      exact bind_pure ((ofFormulas formulas).register last.1 last.2)

/-! ## Lists without repetitions -/

theorem nodup_listed_dropReader (nodup : ∀ listing, (listed table listing).Nodup) :
    (listed (dropReader reader table name) listing).Nodup := by
  have before := nodup listing
  unfold listed dropReader at *
  cases entry : table.get? name with
  | none => exact before
  | some list =>
      rw [Table.get?_set]
      split
      · rename_i same
        subst same
        rw [entry] at before
        exact before.filter _
      · exact before

theorem nodup_listed_addReader (nodup : ∀ listing, (listed table listing).Nodup) :
    (listed (addReader reader table name) listing).Nodup := by
  unfold listed addReader at *
  rw [Table.get?_set]
  split
  · exact (nodup name).insert
  · exact nodup listing

theorem nodup_readersOf_add {f : Formula} (nodup : ∀ listing, (g.readersOf listing).Nodup) :
    ∀ listing, ((g.add reader f).readersOf listing).Nodup := by
  have dropped : ∀ listing,
      (listed ((g.readsOf reader).foldl (dropReader reader) g.readers) listing).Nodup :=
    List.foldlRecOn (motive := fun table => ∀ listing, (listed table listing).Nodup) _ _ nodup
      fun _ nodup _ _ _ => nodup_listed_dropReader nodup
  exact List.foldlRecOn (motive := fun table => ∀ listing, (listed table listing).Nodup) _ _ dropped
    fun _ nodup _ _ _ => nodup_listed_addReader nodup

theorem nodup_readersOf (formulas : List (String × Formula)) (name : String) :
    ((ofFormulas formulas).readersOf name).Nodup := by
  induction formulas using List.reverseRecOn generalizing name with
  | nil => exact List.nodup_nil
  | append_singleton formulas last ih =>
      rw [ofFormulas_append_singleton]
      exact nodup_readersOf_add ih name

/-! ## The last formulas -/

theorem get?_reads_ofFormulas (formulas : List (String × Formula)) (name : String) :
    (ofFormulas formulas).reads.get? name =
      ((Table.ofList formulas).get? name).map Formula.dependencies := by
  induction formulas using List.reverseRecOn with
  | nil => rfl
  | append_singleton formulas last ih =>
      rw [ofFormulas_append_singleton, Table.ofList_append_singleton, Graph.add, Table.get?_set,
        Table.get?_set, ih]
      split <;> rfl

theorem get?_ofList_of_perm {history rebuilt : List (String × Formula)}
    (same : rebuilt.Perm (Table.ofList history).entries) (name : String) :
    (Table.ofList rebuilt).get? name = (Table.ofList history).get? name := by
  have nodup : (rebuilt.map Prod.fst).Nodup :=
    (same.map Prod.fst).nodup_iff.mpr (Table.ofList history).keys_nodup
  apply Option.ext
  intro f
  rw [Table.get?_ofList_eq_some_iff nodup, Table.get?_eq_some_iff, same.mem_iff]

/-- However often names are registered again, the graph says the same as one that is built, in any
order, from the last formula of each name alone. -/
theorem history_forgotten (history rebuilt : List (String × Formula))
    (same : rebuilt.Perm (Table.ofList history).entries) :
    registerAll history = .ok (ofFormulas history) ∧
    registerAll rebuilt = .ok (ofFormulas rebuilt) ∧
    (∀ reader name, reader ∈ (ofFormulas history).readersOf name ↔
      name ∈ (ofFormulas history).readsOf reader) ∧
    (∀ name, (ofFormulas history).reads.get? name = (ofFormulas rebuilt).reads.get? name) ∧
    (∀ name, ((ofFormulas history).readersOf name).Perm ((ofFormulas rebuilt).readersOf name)) ∧
    ∀ changed, ((ofFormulas history).affected changed).Perm
      ((ofFormulas rebuilt).affected changed) := by
  have reads : ∀ name, (ofFormulas history).reads.get? name =
      (ofFormulas rebuilt).reads.get? name := by
    intro name
    rw [get?_reads_ofFormulas, get?_reads_ofFormulas, get?_ofList_of_perm same]
  have sameReads : (ofFormulas history).Reads = (ofFormulas rebuilt).Reads := by
    funext reader name
    rw [Reads, Reads, readsOf, readsOf, reads]
  refine ⟨registerAll_eq history, registerAll_eq rebuilt, mirrored_ofFormulas history, reads,
    fun name => ?_, fun changed => ?_⟩
  · rw [List.perm_ext_iff_of_nodup (nodup_readersOf history name) (nodup_readersOf rebuilt name)]
    intro reader
    show (ofFormulas history).ReadBy reader name ↔ (ofFormulas rebuilt).ReadBy reader name
    rw [mirrored_ofFormulas history, mirrored_ofFormulas rebuilt, sameReads]
  · rw [List.perm_ext_iff_of_nodup (nodup_affected changed) (nodup_affected changed)]
    intro name
    rw [mem_affected_ofFormulas_iff, mem_affected_ofFormulas_iff, sameReads]

theorem history_forgotten_emptied : ∃ history rebuilt : List (String × Formula),
    history = [("a", .operator .add [.reference "b", .reference "d"]), ("b", .reference "b"),
      ("a", .operator .add [.reference "a", .reference "c"])] ∧
    rebuilt = [("b", .reference "b"), ("a", .operator .add [.reference "a", .reference "c"])] ∧
    rebuilt.Perm (Table.ofList history).entries ∧
    registerAll history = .ok (ofFormulas history) ∧
    (ofFormulas history).readers.get? "d" = some [] ∧
    (ofFormulas rebuilt).readers.get? "d" = none ∧
    ((ofFormulas history).readersOf "d").Perm ((ofFormulas rebuilt).readersOf "d") ∧
    (ofFormulas history).readersOf "b" = ["b"] ∧
    ((ofFormulas history).affected ["c"]).Perm ((ofFormulas rebuilt).affected ["c"]) ∧
    (ofFormulas history).affected ["c"] = ["a"] := by
  let history : List (String × Formula) :=
    [("a", .operator .add [.reference "b", .reference "d"]), ("b", .reference "b"),
      ("a", .operator .add [.reference "a", .reference "c"])]
  let rebuilt : List (String × Formula) :=
    [("b", .reference "b"), ("a", .operator .add [.reference "a", .reference "c"])]
  have same : rebuilt.Perm (Table.ofList history).entries := by decide
  obtain ⟨registered, -, -, -, readers, affected⟩ := history_forgotten history rebuilt same
  exact ⟨history, rebuilt, rfl, rfl, same, registered, by decide, by decide, readers "d",
    by decide, affected ["c"], by decide⟩

end FormulaGrid.Graph
