import FormulaGrid.Proofs.Evaluation.Path
import FormulaGrid.Proofs.Tables
import Mathlib.Order.Filter.AtTopBot.Basic

/-!
# What a memo holds

The memo is filled while one path is being evaluated and read while another one is. Between the two
stands the invariant `Memo.Valid`.
-/

namespace FormulaGrid
open Filter

structure Memo.Valid (bindings : Bindings) (path : List String) (memo : Memo) : Prop where
  /-- Every entry is the value that its name has on its own. -/
  value : ∀ name value, memo.lookup name = some value → ∃ f, bindings name = some f ∧
    ∀ᶠ limit in atTop, plainReduce bindings limit [name] f = .ok value
  /-- With a name the memo has every bound name that the formula of that name reads. -/
  closed : ∀ name f, (memo.lookup name).isSome → bindings name = some f →
    ∀ next ∈ f.names, (bindings next).isSome → (memo.lookup next).isSome
  apart : ∀ name ∈ path, memo.lookup name = none

structure Memo.Grows (bindings : Bindings) (path names : List String) (memo grown : Memo) :
    Prop where
  valid : grown.Valid bindings path
  keeps : ∀ name, (memo.lookup name).isSome → (grown.lookup name).isSome
  covers : ∀ name ∈ names, (bindings name).isSome → (grown.lookup name).isSome

namespace Memo
variable {bindings : Bindings} {path : List String} {memo grown : Memo}

theorem Valid.empty : Valid bindings path [] where
  value _ _ entry := nomatch entry
  closed _ _ entry := nomatch entry
  apart _ _ := rfl

theorem Valid.reached (valid : memo.Valid bindings path) {f : Formula} {next : String}
    (reads : ∀ name ∈ f.names, (bindings name).isSome → (memo.lookup name).isSome)
    (reached : bindings.Reaches f next) (bound : (bindings next).isSome) :
    (memo.lookup next).isSome := by
  induction reached with
  | here member => exact reads _ member bound
  | through via found _ ih =>
      have entry := reads _ via (by rw [found]; rfl)
      exact ih (valid.closed _ _ entry found) bound

theorem Valid.out_of_reach (valid : memo.Valid bindings path) {f : Formula} {next : String}
    (reads : ∀ name ∈ f.names, (bindings name).isSome → (memo.lookup name).isSome)
    (reached : bindings.Reaches f next) (bound : (bindings next).isSome) : next ∉ path := by
  intro on
  have entry := valid.reached reads reached bound
  rw [valid.apart next on] at entry
  cases entry

theorem Valid.recall (valid : memo.Valid bindings path) {name : String} {value : Value}
    {f : Formula} (entry : memo.lookup name = some value) (bound : bindings name = some f) :
    ∀ᶠ limit in atTop, plainReduce bindings limit (name :: path) f = .ok value := by
  obtain ⟨g, found, settled⟩ := valid.value name value entry
  rw [bound] at found
  cases found
  have reads := valid.closed name f (by rw [entry]; rfl) bound
  filter_upwards [settled] with limit done
  rw [← done]
  apply plainReduce_congr_path
  intro next reached isSome
  have away := valid.out_of_reach reads reached isSome
  simp [away]

theorem Valid.enter (valid : memo.Valid bindings path) {name : String}
    (new : memo.lookup name = none) : memo.Valid bindings (name :: path) where
  value := valid.value
  closed := valid.closed
  apart := List.forall_mem_cons.mpr ⟨new, valid.apart⟩

theorem Grows.leave {name : String} {f : Formula} {value : Value} (bound : bindings name = some f)
    (new : name ∉ path) (grows : Grows bindings (name :: path) f.names memo grown)
    (done : ∀ᶠ limit in atTop, plainReduce bindings limit (name :: path) f = .ok value) :
    Grows bindings path [name] memo ((name, value) :: grown) := by
  have old : ∀ next, (grown.lookup next).isSome →
      (List.lookup next ((name, value) :: grown)).isSome := by
    intro next entry
    rw [lookup_entry_cons]
    split
    · rfl
    · exact entry
  constructor
  · constructor
    · intro next value' entry
      rw [lookup_entry_cons] at entry
      split at entry
      · rename_i same
        subst same
        cases entry
        refine ⟨f, bound, done.mono fun limit done => ?_⟩
        rw [← done]
        apply plainReduce_congr_path
        intro other reached isSome
        have away := not_mem_path_of_ok done reached isSome
        simp only [List.mem_cons, not_or] at away
        simp [away]
      · exact grows.valid.value next value' entry
    · intro next g entry found other member isSome
      rw [lookup_entry_cons] at entry
      split at entry
      · rename_i same
        subst same
        rw [bound] at found
        cases found
        exact old other (grows.covers other member isSome)
      · exact old other (grows.valid.closed next g entry found other member isSome)
    · intro next on
      rw [lookup_entry_cons, if_neg (by rintro rfl; exact new on)]
      exact grows.valid.apart next (List.mem_cons_of_mem name on)
  · exact fun next entry => old next (grows.keeps next entry)
  · intro next member _
    rw [List.mem_singleton.mp member, lookup_entry_cons, if_pos rfl]
    rfl

theorem Grows.trans {names names' : List String} {full : Memo}
    (first : Grows bindings path names memo grown)
    (second : Grows bindings path names' grown full) :
    Grows bindings path (names ++ names') memo full where
  valid := second.valid
  keeps name entry := second.keeps name (first.keeps name entry)
  covers name member bound := by
    rcases List.mem_append.mp member with member | member
    · exact second.keeps name (first.covers name member bound)
    · exact second.covers name member bound

end Memo

end FormulaGrid
