import FormulaGrid.Evaluation.Plain
import FormulaGrid.Proofs.Evaluation.Locality

namespace FormulaGrid
variable {bindings : Bindings}

theorem plainReduce_congr_path {limit : Nat} {path other : List String} {f : Formula}
    (same : ∀ name, bindings.Reaches f name → (bindings name).isSome →
      (name ∈ path ↔ name ∈ other)) :
    plainReduce bindings limit path f = plainReduce bindings limit other f := by
  induction limit generalizing path other f with
  | zero => rfl
  | succ limit ih =>
      cases f with
      | empty => rfl
      | constant n => rfl
      | reference name =>
          rw [plainReduce, plainReduce]
          cases found : bindings name with
          | none => rfl
          | some g =>
              have guarded := same name (.self name) (by rw [found]; rfl)
              have below : plainReduce bindings limit (name :: path) g =
                  plainReduce bindings limit (name :: other) g := by
                apply ih
                intro next h bound
                rw [List.mem_cons, List.mem_cons, same next (.of_reference found h) bound]
              simp only [guarded, below]
      | operator op operands =>
          rw [plainReduce, plainReduce]
          congr 1
          apply mapM_congr
          intro operand member
          rw [ih fun name h => same name (.of_operand member h)]

theorem plainReduce_reference_eq_ok {limit : Nat} {path : List String} {name : String} {f : Formula}
    {value : Value} (bound : bindings name = some f) :
    plainReduce bindings (limit + 1) path (.reference name) = .ok value ↔
      name ∉ path ∧ plainReduce bindings limit (name :: path) f = .ok value := by
  simp only [plainReduce, bound]
  split
  · rename_i circular
    simp [circular, throw, throwThe, MonadExceptOf.throw]
  · rename_i new
    simp [new]

theorem evaluated_of_reaches {limit : Nat} {path : List String} {f g : Formula} {value : Value}
    (done : plainReduce bindings limit path f = .ok value) {name : String}
    (reached : bindings.Reaches f name) (bound : bindings name = some g) :
    ∃ inner above inside, path ⊆ above ∧ name ∉ above ∧
      plainReduce bindings inner (name :: above) g = .ok inside := by
  induction limit generalizing path f value with
  | zero => cases done
  | succ limit ih =>
      cases f with
      | empty => rcases reached with here | ⟨via, -, -⟩ <;> contradiction
      | constant n => rcases reached with here | ⟨via, -, -⟩ <;> contradiction
      | reference via =>
          rcases Bindings.reaches_reference_iff.mp reached with rfl | ⟨h, found, reached⟩
          · obtain ⟨new, below⟩ := (plainReduce_reference_eq_ok bound).mp done
            exact ⟨limit, path, value, List.Subset.refl path, new, below⟩
          · have below := ((plainReduce_reference_eq_ok found).mp done).2
            obtain ⟨inner, above, inside, within, new, below⟩ := ih below reached
            exact ⟨inner, above, inside, List.subset_of_cons_subset within, new, below⟩
      | operator op operands =>
          obtain ⟨operand, member, reached⟩ := Bindings.reaches_operator_iff.mp reached
          obtain ⟨numbers, each, -⟩ := bind_eq_ok.mp done
          obtain ⟨number, single⟩ := exists_ok_of_mapM each operand member
          obtain ⟨value, done, -⟩ := bind_eq_ok.mp single
          exact ih done reached

theorem not_mem_path_of_ok {limit : Nat} {path : List String} {f : Formula} {value : Value}
    (done : plainReduce bindings limit path f = .ok value) {name : String}
    (reached : bindings.Reaches f name) (bound : (bindings name).isSome) : name ∉ path := by
  obtain ⟨g, found⟩ := Option.isSome_iff_exists.mp bound
  obtain ⟨_, _, _, within, new, -⟩ := evaluated_of_reaches done reached found
  exact fun on => new (within on)

end FormulaGrid
