import FormulaGrid.Proofs.Evaluation.Limits
import FormulaGrid.Proofs.Sheet.Edits
import FormulaGrid.Proofs.Sheet.Readers
import Mathlib.Data.List.Induction
import Mathlib.Data.List.Infix

/-!
# Healthy sheets stay healthy

No cell but the changed one and its readers can lose its value, and a reader counts as healthy if it
has a value in two calls less than the limit. So a value is safe if that many calls are to spare
(`evaluates_of_update`).
-/

namespace FormulaGrid.Sheet
variable {s next : Sheet} {l c : Location} {f : Formula} {limit deeper : Nat}

def Healthy (s : Sheet) (limit : Nat) : Prop :=
  ∀ c, s.Contains c → s.evaluates c limit = true

/-- The cells that have values within one limit have them within another one as well. -/
def Roomy (s : Sheet) (limit lower : Nat) : Prop :=
  ∀ c, s.Contains c → s.evaluates c limit = true → s.evaluates c lower = true

/-! ## Limits -/

theorem evaluate_deeper (le : limit ≤ deeper) {value : Value} (done : s.evaluate c limit = .ok value) :
    s.evaluate c deeper = .ok value := by
  have cut := valueWithin_cutOff_deeper s.bindings le (.reference c.name)
  rw [evaluate] at done
  rw [done] at cut
  exact cut.eq_ok

theorem evaluates_deeper (le : limit ≤ deeper) (done : s.evaluates c limit = true) :
    s.evaluates c deeper = true := by
  obtain ⟨value, done⟩ := evaluates_iff.mp done
  exact evaluates_iff.mpr ⟨value, evaluate_deeper le done⟩

theorem parts_of_create {grammar : Grammar} {builtins : Table String Formula}
    {background : Formula} {rows columns : Int}
    (created : create grammar builtins background rows columns = .ok s) :
    s.grammar = grammar ∧ s.builtins = builtins ∧
      Grid.blank? background rows columns = some s.grid := by
  unfold create at created
  split at created
  · cases created
  · rename_i grid blank
    split at created
    · split at created
      · cases created
      · cases created
        exact ⟨rfl, rfl, blank⟩
    · cases created

theorem formula_of_create {grammar : Grammar} {builtins : Table String Formula}
    {background : Formula} {rows columns : Int}
    (created : create grammar builtins background rows columns = .ok s) :
    s.formula c = background :=
  Grid.get_of_blank? (parts_of_create created).2.2 _

theorem mem_healthyReaders : c ∈ s.healthyReaders l limit ↔
    c ∈ s.usedBy l ∧ s.evaluates c (limit - askingCalls) = true := by
  simp [healthyReaders]

theorem evaluates_of_update (apart : s.BuiltinsReadNoCell)
    (updated : s.update l f limit = .ok next) (present : s.Contains c)
    (before : s.evaluates c (limit - askingCalls) = true) : next.evaluates c limit = true := by
  obtain ⟨inside, rfl, checked⟩ := update_eq_ok_iff.mp updated
  by_cases self : c = l
  · exact checked c (self ▸ List.mem_cons_self)
  · by_cases affected : c ∈ s.usedBy l
    · exact checked c (List.mem_cons_of_mem l (mem_healthyReaders.mpr ⟨affected, before⟩))
    · rw [evaluates_iff, evaluate_install_of_not_mem_usedBy apart inside present self affected,
        ← evaluates_iff]
      exact evaluates_deeper (Nat.sub_le limit askingCalls) before

theorem Healthy.update {wider : Nat} (healthy : s.Healthy wider) (apart : s.BuiltinsReadNoCell)
    (roomy : s.Roomy wider (limit - askingCalls)) (le : limit ≤ wider)
    (updated : s.update l f limit = .ok next) : next.Healthy wider := by
  obtain ⟨-, rfl, -⟩ := update_eq_ok_iff.mp updated
  intro c present
  have before := roomy c present (healthy c present)
  exact evaluates_deeper le (evaluates_of_update apart updated present before)

/-! ## Runs -/

theorem BuiltinsReadNoCell.run (apart : s.BuiltinsReadNoCell) (edits : List Edit) :
    (s.run edits).BuiltinsReadNoCell := by
  refine run_induction BuiltinsReadNoCell ?_ apart edits
  intro t l f limit next apart updated
  obtain ⟨-, rfl, -⟩ := update_eq_ok_iff.mp updated
  exact apart.install l f

theorem run_append (s : Sheet) (before : List Edit) (e : Edit) :
    s.run (before ++ [e]) = (s.run before).after e := by
  rw [run, List.foldl_append]
  rfl

/-- Whenever an edit of the run is made, the values within the limit have calls to spare. -/
def RoomyRun (s : Sheet) (limit : Nat) (edits : List Edit) : Prop :=
  ∀ before e, before ++ [e] <+: edits →
    e.limit ≤ limit ∧ (s.run before).Roomy limit (e.limit - askingCalls)

theorem Healthy.run (healthy : s.Healthy limit) (apart : s.BuiltinsReadNoCell) {edits : List Edit}
    (roomy : s.RoomyRun limit edits) : (s.run edits).Healthy limit := by
  induction edits using List.reverseRecOn with
  | nil => exact healthy
  | append_singleton edits e ih =>
      have now := ih fun before e' earlier =>
        roomy before e' (earlier.trans (List.prefix_append edits [e]))
      rw [run_append]
      rcases (s.run edits).after_cases e with same | ⟨l, f, -, updated⟩
      · rwa [same]
      · obtain ⟨le, spare⟩ := roomy edits e (List.prefix_refl _)
        exact now.update (apart.run edits) spare le updated

end FormulaGrid.Sheet
