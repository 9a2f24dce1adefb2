import FormulaGrid.Proofs.Evaluation.Solutions
import FormulaGrid.Proofs.Sheet.Builtins
import FormulaGrid.Proofs.Sheet.Health
import Mathlib.Data.List.Sort
import Mathlib.Order.Extension.Linear

/-!
# Every sound sheet can be entered

If every cell would have a value with the formula assigned to it, no cell needs itself, so the cells
stand in an order in which each one comes after those that it needs, through built-in names as well.
-/

namespace FormulaGrid

theorem exists_order {α : Type} {needs : α → α → Prop} {xs : List α}
    (trans : ∀ a b c, b ∈ xs → needs a b → needs b c → needs a c)
    (irrefl : ∀ a ∈ xs, ¬needs a a) :
    ∃ order : List α, order.Perm xs ∧ order.Pairwise fun a b => ¬needs a b := by
  classical
  let before (a b : α) : Prop := a = b ∨ a ∈ xs ∧ b ∈ xs ∧ needs b a
  have partialOrder : IsPartialOrder α before := {
    refl := fun a => .inl rfl
    trans := by
      rintro a b c (rfl | ⟨first, mid, need⟩) (rfl | ⟨_, last, need'⟩)
      · exact .inl rfl
      · exact .inr ⟨‹_›, last, need'⟩
      · exact .inr ⟨first, mid, need⟩
      · exact .inr ⟨first, last, trans c b a mid need' need⟩
    antisymm := by
      rintro a b (rfl | ⟨first, last, need⟩) (same | ⟨_, _, need'⟩)
      · rfl
      · rfl
      · exact same.symm
      · exact absurd (trans a b a last need' need) (irrefl a first) }
  obtain ⟨le, linear, extended⟩ := extend_partialOrder before
  have sorted := List.pairwise_insertionSort le xs
  refine ⟨xs.insertionSort le, List.perm_insertionSort le xs, sorted.imp_of_mem ?_⟩
  intro a b first last le_ab need
  rw [List.mem_insertionSort] at first last
  obtain rfl := antisymm le_ab (extended b a (.inr ⟨last, first, need⟩))
  exact irrefl a first need

namespace Sheet
variable {s : Sheet} {assign : Location → Formula} {l c : Location} {f : Formula} {limit : Nat}

def assigned (s : Sheet) (assign : Location → Formula) : Bindings := fun name =>
  match s.cellNamed? name with
  | some l => some (assign l)
  | none => s.builtins.get? name

/-- The formula assigned to one cell leads to the name of another one. -/
def Needs (s : Sheet) (assign : Location → Formula) (a b : Location) : Prop :=
  (s.assigned assign).Reaches (assign a) b.name

def Sound (s : Sheet) (assign : Location → Formula) (limit : Nat) : Prop :=
  ∀ c, s.Contains c →
    ∃ value, valueWithin (s.assigned assign) limit (.reference c.name) = .ok value

structure Entered (s : Sheet) (assign : Location → Formula) (cells : List Location) : Prop where
  entered : ∀ c, s.Contains c → c ∈ cells → s.formula c = assign c
  blank : ∀ c, s.Contains c → c ∉ cells → s.formula c = .empty

theorem assigned_name (inside : s.Contains l) : s.assigned assign l.name = some (assign l) := by
  unfold assigned
  rw [cellNamed?_eq_some_iff.mpr ⟨inside, rfl⟩]

theorem Needs.trans {a b c : Location} (inside : s.Contains b) (first : s.Needs assign a b)
    (next : s.Needs assign b c) : s.Needs assign a c :=
  Bindings.Reaches.trans first (assigned_name inside) next

theorem Sound.not_needs_self (sound : s.Sound assign limit) (inside : s.Contains l) :
    ¬s.Needs assign l l := by
  obtain ⟨value, done⟩ := sound l inside
  exact ((hasValue_reference_iff (assigned_name inside)).mp (hasValue_of_ok done)).2

variable {done : List Location}

theorem bindings_of_entered (entered : s.Entered assign done) (name : String) :
    s.bindings name = s.assigned assign name ∨ s.bindings name = some .empty := by
  unfold bindings assigned
  cases named : s.cellNamed? name with
  | none => exact .inl rfl
  | some c =>
      obtain ⟨inside, -⟩ := cellNamed?_eq_some_iff.mp named
      by_cases member : c ∈ done
      · exact .inl (congrArg some (entered.entered c inside member))
      · exact .inr (congrArg some (entered.blank c inside member))

theorem not_reaches_empty {bindings : Bindings} {name : String} :
    ¬bindings.Reaches .empty name := by
  rintro (here | ⟨via, -, -⟩) <;> contradiction

theorem reaches_assigned (entered : s.Entered assign done) {name : String}
    (reached : s.bindings.Reaches f name) : (s.assigned assign).Reaches f name := by
  induction reached with
  | here member => exact .here member
  | through member found rest ih =>
      rcases bindings_of_entered entered _ with same | blank
      · exact .through member (same ▸ found) ih
      · rw [found] at blank
        cases blank
        exact absurd rest not_reaches_empty

theorem usedBy_eq_nil (entered : s.Entered assign done) (inside : s.Contains l)
    (unread : ∀ c ∈ done, ¬s.Needs assign c l) : s.usedBy l = [] := by
  apply List.eq_nil_iff_forall_not_mem.mpr
  intro c used
  have reached := reaches_of_mem_usedBy inside used
  have present := (mem_usedBy_iff.mp used).1
  by_cases member : c ∈ done
  · rw [entered.entered c present member] at reached
    exact unread c member (reaches_assigned entered reached)
  · rw [entered.blank c present member] at reached
    exact not_reaches_empty reached

theorem evaluate_assigned (entered : s.Entered assign done) (inside : s.Contains l)
    (covered : ∀ c, s.Contains c → s.Needs assign l c → c ∈ done) :
    (s.install l (assign l)).evaluate l limit =
      valueWithin (s.assigned assign) limit (.reference l.name) := by
  symm
  apply valueWithin_congr
  intro name reached
  rw [bindings_install inside, Function.update_apply]
  split
  · rename_i same
    rw [same, assigned_name inside]
  · rename_i other
    rcases Bindings.reaches_reference_iff.mp reached with same | ⟨f, found, reached⟩
    · exact absurd same other
    · rw [assigned_name inside] at found
      cases found
      unfold bindings assigned
      cases named : s.cellNamed? name with
      | none => rfl
      | some c =>
          obtain ⟨present, rfl⟩ := cellNamed?_eq_some_iff.mp named
          exact congrArg some (entered.entered c present (covered c present reached)).symm

theorem update_assigned (entered : s.Entered assign done) (inside : s.Contains l)
    (sound : s.Sound assign limit)
    (covered : ∀ c, s.Contains c → s.Needs assign l c → c ∈ done)
    (unread : ∀ c ∈ done, ¬s.Needs assign c l) :
    s.update l (assign l) limit = .ok (s.install l (assign l)) := by
  have noReaders : s.healthyReaders l limit = [] := by
    rw [healthyReaders, usedBy_eq_nil entered inside unread]
    rfl
  refine update_eq_ok_iff.mpr ⟨inside, rfl, ?_⟩
  rw [noReaders, List.forall_mem_singleton, evaluates_iff, evaluate_assigned entered inside covered]
  exact sound l inside

theorem Entered.install (entered : s.Entered assign done) :
    (s.install l (assign l)).Entered assign (done ++ [l]) where
  entered c present member := by
    rw [formula_install]
    split
    · rename_i same
      rw [same]
    · rename_i other
      rcases List.mem_append.mp member with old | new
      · exact entered.entered c present old
      · exact absurd (List.mem_singleton.mp new) other
  blank c present away := by
    rw [List.mem_append, List.mem_singleton, not_or] at away
    rw [formula_install, if_neg away.2]
    exact entered.blank c present away.1

theorem enter_rest {rest : List Location} (entered : s.Entered assign done)
    (sound : s.Sound assign limit) (all : ∀ c, c ∈ done ++ rest ↔ s.Contains c)
    (ordered : (done ++ rest).Pairwise fun a b => ¬s.Needs assign a b) :
    ∃ filled, rest.foldlM (fun s c => s.update c (assign c) limit) s = .ok filled ∧
      (∀ c, s.Contains c → filled.formula c = assign c) ∧
      filled.bindings = s.assigned assign := by
  induction rest generalizing s done with
  | nil =>
      rw [List.append_nil] at all
      have complete : ∀ c, s.Contains c → s.formula c = assign c := fun c inside =>
        entered.entered c inside ((all c).mpr inside)
      refine ⟨s, rfl, complete, funext fun name => ?_⟩
      unfold bindings assigned
      cases named : s.cellNamed? name with
      | none => rfl
      | some c => exact congrArg some (complete c (cellNamed?_eq_some_iff.mp named).1)
  | cons l rest ih =>
      have inside : s.Contains l := (all l).mp (List.mem_append_right done List.mem_cons_self)
      obtain ⟨-, after, unread⟩ := List.pairwise_append.mp ordered
      have covered : ∀ c, s.Contains c → s.Needs assign l c → c ∈ done := by
        intro c present needed
        rcases List.mem_append.mp ((all c).mpr present) with old | new
        · exact old
        · rcases List.mem_cons.mp new with rfl | later
          · exact absurd needed (sound.not_needs_self present)
          · exact absurd needed (List.rel_of_pairwise_cons after later)
      -- what the cell needs is entered, and what is entered does not need the cell
      have taken := update_assigned entered inside sound covered fun c member =>
        unread c member l List.mem_cons_self
      rw [List.append_cons] at all ordered
      obtain ⟨filled, run, formulas, bindings⟩ := ih entered.install sound all ordered
      refine ⟨filled, ?_, formulas, bindings⟩
      rw [List.foldlM_cons, taken]
      exact run

/-- If every cell has a value in the sheet that holds the formulas assigned to its cells, there is an
order in which a blank sheet takes them all, one cell after the other. -/
theorem sound_sheet_can_be_entered {grammar : Grammar} {builtins : Table String Formula}
    {rows columns : Int} {blank : Sheet}
    (created : create grammar builtins .empty rows columns = .ok blank)
    {assign : Location → Formula} {limit : Nat} (sound : blank.Sound assign limit) :
    ∃ order : List Location, order.Perm blank.cells ∧ ∃ filled,
      order.foldlM (fun s c => s.update c (assign c) limit) blank = .ok filled ∧
      (∀ c, blank.Contains c → filled.formula c = assign c) ∧
      filled.bindings = blank.assigned assign := by
  obtain ⟨order, perm, ordered⟩ : ∃ order : List Location, order.Perm blank.cells ∧
      order.Pairwise fun a b => ¬blank.Needs assign a b :=
    exists_order (fun a b c member => Needs.trans (mem_cells.mp member))
      fun a member => sound.not_needs_self (mem_cells.mp member)
  have entered : blank.Entered assign [] := {
    entered := fun c _ member => absurd member List.not_mem_nil
    blank := fun c _ _ => formula_of_create created }
  have all : ∀ c, c ∈ [] ++ order ↔ blank.Contains c := fun c => perm.mem_iff.trans mem_cells
  obtain ⟨filled, run, formulas, bindings⟩ := enter_rest entered sound all ordered
  exact ⟨order, perm, filled, run, formulas, bindings⟩

theorem sound_sheet_can_be_entered_link : ∃ blank : Sheet, ∃ assign : Location → Formula,
    create .stock (.ofList [("link", .reference "C0")]) .empty 1 3 = .ok blank ∧
    blank.cells.map assign = [.operator .divide [.reference "B0", .reference "link"],
      .operator .add [.reference "C0", .constant 1], .constant 5] ∧
    blank.Sound assign callLimit ∧
    (∃ e, blank.cells.foldlM (fun s c => s.update c (assign c) callLimit) blank = .error e) ∧
    ∃ order : List Location, order.Perm blank.cells ∧ ∃ filled,
      order.foldlM (fun s c => s.update c (assign c) callLimit) blank = .ok filled ∧
      (∀ c, blank.Contains c → filled.formula c = assign c) ∧
      filled.bindings = blank.assigned assign := by
  obtain ⟨blank, assign, created, assigned, stuck, values⟩ : ∃ blank : Sheet,
      ∃ assign : Location → Formula,
      create .stock (.ofList [("link", .reference "C0")]) .empty 1 3 = .ok blank ∧
      blank.cells.map assign = [.operator .divide [.reference "B0", .reference "link"],
        .operator .add [.reference "C0", .constant 1], .constant 5] ∧
      (∃ e, blank.cells.foldlM (fun s c => s.update c (assign c) callLimit) blank = .error e) ∧
      ∀ c ∈ blank.cells,
        failure? (valueWithin (blank.assigned assign) callLimit (.reference c.name)) = none :=
    ⟨_, fun l => [.operator .divide [.reference "B0", .reference "link"],
      .operator .add [.reference "C0", .constant 1], .constant 5].getD l.column .empty,
      rfl, by decide +kernel, ⟨_, rfl⟩, by decide +kernel⟩
  have sound : blank.Sound assign callLimit := fun c inside =>
    failure?_eq_none_iff.mp (values c (mem_cells.mpr inside))
  exact ⟨blank, assign, created, assigned, sound, stuck, sound_sheet_can_be_entered created sound⟩

end Sheet

end FormulaGrid
