import FormulaGrid.Evaluation.Reads
import FormulaGrid.Proofs.Evaluation.Operands
import FormulaGrid.Proofs.Tables

namespace FormulaGrid
variable {bindings other : Bindings}

namespace Bindings

theorem Reaches.self (name : String) : bindings.Reaches (.reference name) name :=
  .here (List.mem_singleton_self name)

theorem Reaches.of_reference {name next : String} {f : Formula} (bound : bindings name = some f)
    (h : bindings.Reaches f next) : bindings.Reaches (.reference name) next :=
  .through (List.mem_singleton_self name) bound h

theorem reaches_reference_iff {name next : String} : bindings.Reaches (.reference name) next ↔
    next = name ∨ ∃ f, bindings name = some f ∧ bindings.Reaches f next := by
  constructor
  · rintro (here | ⟨via, bound, h⟩)
    · exact .inl (List.mem_singleton.mp here)
    · obtain rfl := List.mem_singleton.mp via
      exact .inr ⟨_, bound, h⟩
  · rintro (rfl | ⟨f, bound, h⟩)
    · exact .self next
    · exact .of_reference bound h

theorem reaches_operator_iff {op : Op} {operands : List Formula} {name : String} :
    bindings.Reaches (.operator op operands) name ↔
      ∃ operand ∈ operands, bindings.Reaches operand name := by
  constructor
  · rintro (here | ⟨via, bound, h⟩)
    · rw [Formula.names_operator] at here
      obtain ⟨operand, member, here⟩ := List.mem_flatMap.mp here
      exact ⟨operand, member, .here here⟩
    · rw [Formula.names_operator] at via
      obtain ⟨operand, member, via⟩ := List.mem_flatMap.mp via
      exact ⟨operand, member, .through via bound h⟩
  · rintro ⟨operand, member, h⟩
    exact h.of_operand member

theorem Reaches.mem_of_closed {f : Formula} {name : String} (h : bindings.Reaches f name)
    {names : String → Prop} (start : ∀ next ∈ f.names, names next)
    (closed : ∀ via g, names via → bindings via = some g → ∀ next ∈ g.names, names next) :
    names name := by
  induction h with
  | here member => exact start _ member
  | through via bound _ ih => exact ih (closed _ _ (start _ via) bound)

theorem Reaches.congr_back {f : Formula} {name : String}
    (same : ∀ name, bindings.Reaches f name → bindings name = other name)
    (h : other.Reaches f name) : bindings.Reaches f name := by
  induction h with
  | here member => exact .here member
  | through via bound _ ih =>
      rw [← same _ (.here via)] at bound
      exact .through via bound (ih fun next h => same next (.through via bound h))

theorem reaches_congr {f : Formula}
    (same : ∀ name, bindings.Reaches f name → bindings name = other name) (name : String) :
    bindings.Reaches f name ↔ other.Reaches f name := by
  have back : ∀ next, other.Reaches f next → other next = bindings next :=
    fun next h => (same next (.congr_back same h)).symm
  exact ⟨.congr_back back, .congr_back same⟩

end Bindings

theorem reduce_congr {limit : Nat} {path : List String} {f : Formula}
    (same : ∀ name, bindings.Reaches f name → bindings name = other name) :
    reduce bindings limit path f = reduce other limit path f := by
  induction limit generalizing path f with
  | zero => rfl
  | succ limit ih =>
      cases f with
      | empty => rfl
      | constant n => rfl
      | reference name =>
          rw [reduce, reduce, ← same name (.self name)]
          cases found : bindings name with
          | none => rfl
          | some g =>
              have below : reduce bindings limit (name :: path) g =
                  reduce other limit (name :: path) g :=
                ih fun next h => same next (.of_reference found h)
              simp only [below]
      | operator op operands =>
          rw [reduce, reduce]
          congr 1
          apply mapM_congr
          intro operand member
          rw [ih fun name h => same name (.of_operand member h)]

theorem valueWithin_congr {limit : Nat} {f : Formula}
    (same : ∀ name, bindings.Reaches f name → bindings name = other name) :
    valueWithin bindings limit f = valueWithin other limit f := by
  unfold valueWithin
  rw [reduce_congr same]

/-- A formula has the same outcome over bindings that agree on the names that it reaches: on every
path, with every memo, at every limit. -/
theorem evaluation_local (f : Formula)
    (same : ∀ name, bindings.Reaches f name → bindings name = other name) :
    (∀ name, bindings.Reaches f name ↔ other.Reaches f name) ∧
    (∀ limit path memo, (reduce bindings limit path f).run memo =
      (reduce other limit path f).run memo) ∧
    (∀ limit, valueWithin bindings limit f = valueWithin other limit f) ∧
    f.value bindings = f.value other := by
  have equal (limit : Nat) (path : List String) :
      reduce bindings limit path f = reduce other limit path f := reduce_congr same
  refine ⟨Bindings.reaches_congr same, fun limit path memo => ?_, fun limit => ?_, ?_⟩
  · rw [equal]
  · exact valueWithin_congr same
  · exact valueWithin_congr same

theorem evaluation_local_unread : ∃ env changed : Table String Formula,
    env = .ofList [("a", .constant 2), ("b", .reference "a"), ("x", .reference "y"),
      ("y", .reference "x"), ("unread", .constant 0)] ∧
    changed = .ofList [("unread", .reference "x"), ("y", .reference "x"), ("x", .reference "y"),
      ("b", .reference "a"), ("a", .constant 2)] ∧
    let f := Formula.operator .add [.reference "a", .reference "b", .reference "x"]
    (∀ name, Bindings.Reaches env.get? f name → env.get? name = changed.get? name) ∧
    env.get? "unread" ≠ changed.get? "unread" ∧
    valueWithin changed.get? 3 f = .error .tooDeep ∧
    valueWithin changed.get? 4 f = .error (.circular "x") := by
  let env : Table String Formula := .ofList [("a", .constant 2), ("b", .reference "a"),
    ("x", .reference "y"), ("y", .reference "x"), ("unread", .constant 0)]
  let changed : Table String Formula := .ofList [("unread", .reference "x"),
    ("y", .reference "x"), ("x", .reference "y"), ("b", .reference "a"), ("a", .constant 2)]
  refine ⟨env, changed, rfl, rfl, ?_⟩
  intro f
  have same : ∀ name, Bindings.Reaches env.get? f name → env.get? name = changed.get? name := by
    intro name reached
    have listed : name ∈ ["a", "b", "x", "y"] := by
      apply reached.mem_of_closed
      · decide
      · intro via g _ entry
        have each : ∀ entry ∈ env.entries, ∀ next ∈ entry.2.names, next ∈ ["a", "b", "x", "y"] := by
          decide
        exact each _ (Table.mem_entries_of_get? entry)
    clear reached
    revert name
    decide
  obtain ⟨-, -, equal, -⟩ := evaluation_local f same
  refine ⟨same, by decide, ?_, ?_⟩
  · rw [← equal]
    decide
  · rw [← equal]
    decide

end FormulaGrid
