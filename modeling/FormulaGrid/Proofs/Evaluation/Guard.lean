import FormulaGrid.Proofs.Evaluation.Cycles
import FormulaGrid.Proofs.Evaluation.Failures

/-!
# The guard finds cycles and nothing else

A name that is met on its path was reached from that same name, and a formula that reaches a circle
would have to go round it to get a value.
-/

namespace FormulaGrid
open Filter Relation

variable {bindings : Bindings} {limit : Nat} {f : Formula} {name : String}

def Bindings.ReachesCycle (bindings : Bindings) (f : Formula) : Prop :=
  ∃ names, bindings.IsCycle names ∧ ∃ name ∈ names, bindings.Reaches f name

theorem not_reachesCycle_of_ok {value : Value} (done : valueWithin bindings limit f = .ok value) :
    ¬bindings.ReachesCycle f := by
  rintro ⟨names, cycle, name, member, reached⟩
  exact not_reads_itself_of_ok done reached (cycle.reads_itself member)

theorem circular_of_plain {path : List String}
    (failed : plainReduce bindings limit path f = .error (.circular name)) :
    (bindings name).isSome ∧ bindings.Reaches f name ∧
      (name ∈ path ∨ TransGen bindings.Reads name name) := by
  induction limit generalizing path f with
  | zero => cases failed
  | succ limit ih =>
      cases f with
      | empty => cases failed
      | constant n => cases failed
      | reference via =>
          obtain ⟨g, found, ⟨on, same⟩ | inside⟩ := plainReduce_reference_error failed
          · cases same
            exact ⟨by rw [found]; rfl, .self name, .inl on⟩
          · obtain ⟨bound, reached, again⟩ := ih inside
            refine ⟨bound, .of_reference found reached, ?_⟩
            rcases again with on | circle
            · rcases List.mem_cons.mp on with rfl | before
              · exact .inr (Bindings.reads_of_reaches found reached bound)
              · exact .inl before
            · exact .inr circle
      | operator op operands =>
          rcases plainReduce_operator_error failed with
            ⟨operand, member, inside⟩ | ⟨value, read⟩ | ⟨numbers, -, combined⟩
          · obtain ⟨bound, reached, again⟩ := ih inside
            exact ⟨bound, .of_operand member reached, again⟩
          · rcases Value.operand_error read with other | ⟨_, other⟩ <;> cases other
          · obtain ⟨cause, -, other⟩ := combine_error combined
            cases other

theorem cycle_of_circular (failed : valueWithin bindings limit f = .error (.circular name)) :
    (bindings name).isSome ∧ bindings.Reaches f name ∧
      ∃ names, bindings.IsCycle names ∧ name ∈ names := by
  rcases exists_plain_of_error failed with other | ⟨deep, plain⟩
  · cases other
  · obtain ⟨bound, reached, on | circle⟩ := circular_of_plain plain
    · cases on
    · exact ⟨bound, reached, Bindings.exists_isCycle circle⟩

theorem failed_of_reachesCycle {env : Table String Formula}
    (circle : Bindings.ReachesCycle env.get? f) : ∃ cause, cause ≠ .tooDeep ∧
      (∀ limit, deepEnough env f ≤ limit → valueWithin env.get? limit f = .error cause) ∧
      ∀ limit, CutOff (valueWithin env.get? limit f) (.error cause) := by
  have deep := valueWithin_eq_deepEnough (Nat.le_refl (deepEnough env f))
  have uncut := plainValueWithin_ne_tooDeep (Nat.le_refl (deepEnough env f))
  cases outcome : plainValueWithin env.get? (deepEnough env f) f with
  | ok value =>
      rw [outcome] at deep
      exact absurd circle (not_reachesCycle_of_ok deep)
  | error cause =>
      rw [outcome] at uncut
      refine ⟨cause, fun same => uncut (by rw [same]), fun limit le => ?_, fun limit => ?_⟩
      · rw [valueWithin_eq_deepEnough le, outcome]
      · rw [← outcome]
        exact valueWithin_cutOff_deepEnough env limit f

/-- A formula that has a value reaches no circle, one that reaches a circle fails with one type error
from some limit on, and a name that is called circular stands in a circle that is reached. -/
theorem guard_exact (env : Table String Formula) (f : Formula) :
    (∀ limit value, valueWithin env.get? limit f = .ok value → ¬Bindings.ReachesCycle env.get? f) ∧
    (f.WellFormed → Bindings.WellFormed env.get? → Bindings.ReachesCycle env.get? f →
      ∃ cause : EvalError, cause.IsTypeError ∧ cause ≠ .tooDeep ∧
        (∃ enough, ∀ limit, enough ≤ limit → valueWithin env.get? limit f = .error cause) ∧
        ∀ limit, valueWithin env.get? limit f = .error .tooDeep ∨
          valueWithin env.get? limit f = .error cause) ∧
    (∀ limit name, valueWithin env.get? limit f = .error (.circular name) →
      (env.get? name).isSome ∧ Bindings.Reaches env.get? f name ∧
        ∃ names, Bindings.IsCycle env.get? names ∧ name ∈ names) ∧
    (¬Bindings.ReachesCycle env.get? f →
      ∀ limit name, valueWithin env.get? limit f ≠ .error (.circular name)) := by
  refine ⟨fun limit value done => not_reachesCycle_of_ok done, ?_,
    fun limit name failed => cycle_of_circular failed, ?_⟩
  · intro formed wellFormed circle
    obtain ⟨cause, uncut, deep, cut⟩ := failed_of_reachesCycle circle
    have typeError := isTypeError_of_failed wellFormed formed (deep _ (Nat.le_refl _))
    exact ⟨cause, typeError, uncut, ⟨_, deep⟩, cut⟩
  · intro free limit name failed
    obtain ⟨-, reached, names, cycle, member⟩ := cycle_of_circular failed
    exact free ⟨names, cycle, name, member, reached⟩

theorem guard_exact_shared : ∃ shared circle : Table String Formula,
    shared = .ofList [("a", .reference "c"), ("b", .reference "c"), ("c", .constant 3)] ∧
    circle = .ofList [("a", .reference "c"), ("b", .reference "c"), ("c", .reference "a")] ∧
    let f := Formula.operator .add [.reference "a", .reference "b"]
    let g := Formula.operator .add [.empty, f]
    valueWithin shared.get? 4 f = .ok (.number 6) ∧ ¬Bindings.ReachesCycle shared.get? f ∧
    valueWithin circle.get? 4 f = .error (.circular "a") ∧
    (∃ names, Bindings.IsCycle circle.get? names ∧ "a" ∈ names) ∧
    Bindings.ReachesCycle circle.get? g ∧ g.WellFormed ∧ Bindings.WellFormed circle.get? ∧
    ∃ enough, ∀ limit, enough ≤ limit →
      valueWithin circle.get? limit g = .error (.emptyOperand .add) := by
  let shared : Table String Formula :=
    .ofList [("a", .reference "c"), ("b", .reference "c"), ("c", .constant 3)]
  let circle : Table String Formula :=
    .ofList [("a", .reference "c"), ("b", .reference "c"), ("c", .reference "a")]
  refine ⟨shared, circle, rfl, rfl, ?_⟩
  intro f g
  have sum : valueWithin shared.get? 4 f = .ok (.number 6) := by decide
  have fails : valueWithin circle.get? 4 f = .error (.circular "a") := by decide
  have first : valueWithin circle.get? 4 g = .error (.emptyOperand .add) := by decide
  have formed : g.WellFormed := by decide
  have wellFormed : Bindings.WellFormed circle.get? := Table.wellFormed_get? (by decide)
  obtain ⟨-, reached, names, cycle, member⟩ := (guard_exact circle f).2.2.1 4 "a" fails
  have behind : Bindings.ReachesCycle circle.get? g :=
    ⟨names, cycle, "a", member, .of_operand (by simp) reached⟩
  obtain ⟨cause, -, -, settled, cut⟩ := (guard_exact circle g).2.1 formed wellFormed behind
  have same : cause = .emptyOperand .add := by
    rcases cut 4 with deep | failed
    · rw [first] at deep
      cases deep
    · rw [first] at failed
      exact (Except.error.inj failed).symm
  rw [same] at settled
  exact ⟨sum, (guard_exact shared f).1 4 _ sum, fails, ⟨names, cycle, member⟩, behind, formed,
    wellFormed, settled⟩

end FormulaGrid
