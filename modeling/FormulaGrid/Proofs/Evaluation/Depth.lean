import FormulaGrid.Evaluation.Plain
import FormulaGrid.Proofs.Evaluation.Operands
import Mathlib.Data.List.Basic
import Mathlib.Data.List.Nodup
import Mathlib.Data.List.Perm.Subperm

/-!
# The depth limit

A deeper limit changes no outcome except that an evaluation is cut off less often
(`plainReduce_cutOff`), and where finitely many names are bound some limit cuts nothing off
(`plainReduce_ne_tooDeep`).
-/

namespace FormulaGrid

/-! ## Outcomes that are cut off -/

/-- One outcome is another one, or it was cut off at the depth limit. -/
def CutOff {α : Type} (cut full : Except EvalError α) : Prop :=
  cut = .error .tooDeep ∨ cut = full

namespace CutOff
variable {α β : Type}

theorem refl (outcome : Except EvalError α) : CutOff outcome outcome := .inr rfl

theorem eq {cut full : Except EvalError α} (h : CutOff cut full) (deep : cut ≠ .error .tooDeep) :
    cut = full :=
  h.resolve_left deep

theorem eq_ok {a : α} {full : Except EvalError α} (h : CutOff (.ok a) full) : full = .ok a :=
  (h.eq (by simp)).symm

theorem bind {cut full : Except EvalError α} {k k' : α → Except EvalError β} (h : CutOff cut full)
    (next : ∀ a, CutOff (k a) (k' a)) : CutOff (cut >>= k) (full >>= k') := by
  rcases h with rfl | rfl
  · exact .inl rfl
  · cases cut with
    | error e => exact .inr rfl
    | ok a => exact next a

theorem map {cut full : Except EvalError α} (h : CutOff cut full) (f : α → β) :
    CutOff (cut.map f) (full.map f) := by
  rcases h with rfl | rfl
  · exact .inl rfl
  · exact .inr rfl

theorem mapM {f g : α → Except EvalError β} {xs : List α} (each : ∀ x ∈ xs, CutOff (f x) (g x)) :
    CutOff (xs.mapM f) (xs.mapM g) := by
  induction xs with
  | nil => exact refl _
  | cons x xs ih =>
      rw [List.mapM_cons, List.mapM_cons]
      refine (each x List.mem_cons_self).bind fun y => ?_
      exact (ih fun z member => each z (List.mem_cons_of_mem x member)).bind fun ys => refl _

end CutOff

/-! ## Deeper limits -/

theorem plainReduce_cutOff (bindings : Bindings) {limit deeper : Nat} (le : limit ≤ deeper)
    (path : List String) (f : Formula) :
    CutOff (plainReduce bindings limit path f) (plainReduce bindings deeper path f) := by
  induction limit generalizing deeper path f with
  | zero => exact .inl rfl
  | succ limit ih =>
      obtain ⟨deeper, rfl⟩ := Nat.exists_eq_succ_of_ne_zero (Nat.ne_zero_of_lt le)
      have le : limit ≤ deeper := Nat.le_of_succ_le_succ le
      cases f with
      | empty => exact .refl _
      | constant n => exact .refl _
      | reference name =>
          unfold plainReduce
          split
          · exact .refl _
          · split
            · exact .refl _
            · exact ih le _ _
      | operator op operands =>
          exact (CutOff.mapM fun operand _ => (ih le path operand).bind fun _ => .refl _).bind
            fun _ => .refl _

/-! ## Limits that are deep enough -/

theorem plainReduce_ne_tooDeep {bindings : Bindings} {bound : List String} {height : Nat}
    (finite : ∀ name, (bindings name).isSome → name ∈ bound)
    (low : ∀ name f, bindings name = some f → f.height ≤ height)
    {limit : Nat} {path : List String} {f : Formula} (nodup : path.Nodup) (within : path ⊆ bound)
    (room : (bound.length - path.length) * height + f.height ≤ limit) :
    plainReduce bindings limit path f ≠ .error .tooDeep := by
  induction limit generalizing path f with
  | zero =>
      have := f.height_pos
      omega
  | succ limit ih =>
      cases f with
      | empty => exact nofun
      | constant n => exact nofun
      | reference name =>
          unfold plainReduce
          split
          · exact nofun
          · rename_i g found
            split
            · exact nofun
            · rename_i new
              have nodup' : (name :: path).Nodup := List.nodup_cons.mpr ⟨new, nodup⟩
              have within' : name :: path ⊆ bound :=
                List.cons_subset.mpr ⟨finite name (by rw [found]; rfl), within⟩
              -- the name takes one place of the path, and that leaves room for its formula
              have places := (nodup'.subperm within').length_le
              rw [List.length_cons] at places
              have step : bound.length - path.length = bound.length - (path.length + 1) + 1 := by
                omega
              rw [step, Nat.succ_mul, Formula.height] at room
              have below := low name g found
              apply ih nodup' within'
              rw [List.length_cons]
              omega
      | operator op operands =>
          refine bind_ne_error (mapM_ne_error fun operand member => ?_) (combine_ne_tooDeep op)
          refine bind_ne_error (ih nodup within ?_) (Value.operand_ne_tooDeep op)
          have lower : operand.height < (Formula.operator op operands).height :=
            Formula.height_lt_operator member
          omega

end FormulaGrid
