import FormulaGrid.Proofs.Graph.Registered
import FormulaGrid.Proofs.Locations
import FormulaGrid.Proofs.Sheet.Edits
import FormulaGrid.Proofs.Sheet.Health

/-!
# A ledger agrees with its sheet

A ledger represents a sheet if its two tables say of cells and names what the sheet says. Then every
call has the answer that it has on the sheet (`call_cases`).
-/

namespace FormulaGrid.Ledger
open Text

structure Represents (b : Ledger) (s : Sheet) : Prop where
  grammar : b.grammar = s.grammar
  builtins : b.builtins = s.builtins
  background : b.background = s.grid.background
  rows : b.rows = s.grid.rows
  columns : b.columns = s.grid.columns
  formulas : b.formulas.entries = s.cells.map fun l => (l, s.formula l)
  environment : b.environment.get? = s.bindings

variable {b : Ledger} {s : Sheet} {l c : Location} {f : Formula}

theorem not_taken_error (e : Failure) : ¬Taken (.error e) := by
  simp [Taken]

theorem look_answer {α ε : Type} {x : Except ε α} {y : Except Failure α} {fail : ε → Failure}
    (answer : α → Answer) (same : y = x.mapError fail) (look : ∀ a, answer a ≠ .edited .accepted) :
    ¬Taken (y.map answer) ∧ (x.map answer).mapError fail = y.map answer := by
  rw [same]
  cases x with
  | error e => exact ⟨not_taken_error (fail e), rfl⟩
  | ok a =>
      refine ⟨fun taken => look a ?_, rfl⟩
      exact Except.ok.inj taken

namespace Represents

/-! ## Cells and names -/

theorem keys_formulas (h : b.Represents s) : b.formulas.keys = s.cells :=
  Table.keys_eq_of_entries h.formulas

theorem get?_formulas (h : b.Represents s) (inside : s.Contains l) :
    b.formulas.get? l = some (s.formula l) :=
  Table.get?_of_entries h.formulas (Sheet.mem_cells.mpr inside)

theorem install (h : b.Represents s) (inside : s.Contains l) (f : Formula) :
    (b.install l f).Represents (s.install l f) where
  grammar := h.grammar
  builtins := h.builtins
  background := h.background
  rows := h.rows
  columns := h.columns
  formulas := by
    have member := Sheet.mem_cells.mpr inside
    refine (Table.entries_set_of_mem h.formulas member).trans (List.map_congr_left fun c _ => ?_)
    rw [Sheet.formula_install]
  environment := by
    funext name
    show (b.environment.set l.name f).get? name = _
    rw [Table.get?_set, h.environment, Sheet.bindings_install inside, Function.update_apply]

theorem restore (h : b.Represents s) (inside : s.Contains l) (f : Formula) :
    (b.install l f).install l (s.formula l) = b := by
  have bound : b.environment.get? l.name = some (s.formula l) := by
    rw [h.environment, Sheet.bindings_name inside]
  simp only [Ledger.install, Table.set_set_of_get? (h.get?_formulas inside),
    Table.set_set_of_get? bound]

/-! ## Looking at cells -/

theorem locate (h : b.Represents s) (row column : Int) :
    b.locate row column = s.locate row column := by
  simp only [Ledger.locate, Sheet.locate, h.rows, h.columns]

theorem check (h : b.Represents s) (l : Location) : b.check l = s.check l := by
  rw [Ledger.check, h.rows, h.columns]
  rfl

theorem evaluate (h : b.Represents s) (l : Location) (limit : Nat) :
    b.evaluate l limit = s.evaluate l limit := by
  rw [Ledger.evaluate, h.environment, Sheet.evaluate]

theorem stored (h : b.Represents s) (inside : s.Contains l) : b.stored l = .ok (s.formula l) := by
  rw [Ledger.stored, h.get?_formulas inside]

theorem formulaAt_of_contains (h : b.Represents s) (inside : s.Contains l) :
    b.formulaAt l = .ok (s.formula l) := by
  rw [Ledger.formulaAt, h.check, Sheet.check, if_pos inside]
  exact h.stored inside

theorem formulaAt (h : b.Represents s) (l : Location) :
    b.formulaAt l = (s.formulaAt l).mapError .outOfRange := by
  by_cases inside : s.Contains l
  · rw [h.formulaAt_of_contains inside, Sheet.formulaAt, Sheet.check, if_pos inside]
    rfl
  · rw [Ledger.formulaAt, h.check, Sheet.formulaAt, Sheet.check, if_neg inside]
    rfl

theorem valueAt_of_contains (h : b.Represents s) (inside : s.Contains l) (limit : Nat) :
    b.valueAt l limit = .ok (s.shown l limit) := by
  rw [Ledger.valueAt, h.check, Sheet.check, if_pos inside, h.evaluate]
  unfold Sheet.shown
  cases s.evaluate l limit with
  | ok value => rfl
  | error cause => exact h.stored inside

theorem valueAt (h : b.Represents s) (l : Location) (limit : Nat) :
    b.valueAt l limit = (s.valueAt l limit).mapError .outOfRange := by
  by_cases inside : s.Contains l
  · rw [h.valueAt_of_contains inside, Sheet.valueAt, Sheet.check, if_pos inside]
    rfl
  · rw [Ledger.valueAt, h.check, Sheet.valueAt, Sheet.check, if_neg inside]
    rfl

theorem graph (h : b.Represents s) : b.graph = s.graph := by
  rw [Ledger.graph, Sheet.graph, h.formulas, List.map_map]
  rfl

theorem cellNamed_eq_ok_iff (h : b.Represents s) {name : String} :
    b.cellNamed name = .ok c ↔ s.Contains c ∧ c.name = name := by
  have nodup : ((s.cells.map fun l => (l.name, l)).map Prod.fst).Nodup := by
    rw [List.map_map]
    exact (Location.nodup_of_ordered (Location.block_ordered _ _)).map Location.name_injective
  have entry : b.cellsByName.get? name = some c ↔ s.Contains c ∧ c.name = name := by
    rw [cellsByName, h.keys_formulas, Table.get?_ofList_eq_some_iff nodup, List.mem_map]
    simp [Sheet.mem_cells, and_comm]
  rw [← entry, cellNamed]
  cases b.cellsByName.get? name <;> simp

theorem readers (h : b.Represents s) (l : Location) :
    ∃ found, (b.graph.affected [l.name]).mapM b.cellNamed = .ok found ∧
      Location.sorted found = s.usedBy l := by
  have cells : ∀ name ∈ s.graph.affected [l.name], ∃ c, b.cellNamed name = .ok c := by
    intro name member
    rw [Sheet.graph, Graph.mem_affected_ofFormulas_iff] at member
    obtain ⟨_, -, chain⟩ := member
    obtain ⟨_, read, -⟩ := Relation.TransGen.head'_iff.mp chain
    obtain ⟨c, inside, named, -⟩ := Sheet.graph_reads_iff.mp read
    exact ⟨c, h.cellNamed_eq_ok_iff.mpr ⟨inside, named⟩⟩
  obtain ⟨found, each⟩ := exists_mapM_eq_ok cells
  rw [h.graph]
  refine ⟨found, each, ?_⟩
  have names : s.graph.affected [l.name] = found.map Location.name := by
    rw [← List.forall₂_eq_eq_eq, List.forall₂_map_right_iff]
    exact (mapM_eq_ok_iff.mp each).imp fun name c read => (h.cellNamed_eq_ok_iff.mp read).2.symm
  -- the search finds every reader once, so sorting has nothing to choose
  have nodup := Graph.nodup_affected (g := s.graph) [l.name]
  rw [names] at nodup
  have ordered : (s.usedBy l).Pairwise (· < ·) := (Location.block_ordered _ _).filter _
  apply Location.sorted_eq_of_perm _ ordered
  rw [List.perm_ext_iff_of_nodup nodup.of_map (Location.nodup_of_ordered ordered)]
  intro c
  rw [Sheet.usedBy, names]
  simp only [List.mem_filter, Sheet.mem_cells, decide_eq_true_eq,
    List.mem_map_of_injective Location.name_injective, iff_and_self]
  intro member
  obtain ⟨name, -, read⟩ := exists_mem_of_mapM each c member
  exact (h.cellNamed_eq_ok_iff.mp read).1

theorem usedByAt_of_contains (h : b.Represents s) (inside : s.Contains l) :
    b.usedByAt l = .ok (s.usedBy l) := by
  obtain ⟨found, each, sorted⟩ := h.readers l
  rw [Ledger.usedByAt, h.check, Sheet.check, if_pos inside, each]
  exact congrArg Except.ok sorted

theorem usedByAt (h : b.Represents s) (l : Location) :
    b.usedByAt l = (s.usedByAt l).mapError .outOfRange := by
  by_cases inside : s.Contains l
  · rw [h.usedByAt_of_contains inside, Sheet.usedByAt, Sheet.check, if_pos inside]
    rfl
  · rw [Ledger.usedByAt, h.check, Sheet.usedByAt, Sheet.check, if_neg inside]
    rfl

theorem formulaView (h : b.Represents s) (row column : Int) :
    b.formulaView row column = (s.formulaView row column).mapError CellError.failure := by
  rw [Ledger.formulaView, Sheet.formulaView, h.locate]
  cases located : s.locate row column with
  | error e => rfl
  | ok l =>
      show (b.formulaAt l >>= fun f => (Tile.ofFormula f).mapError CellError.failure) =
        (Tile.ofFormula (s.formula l)).mapError CellError.failure
      rw [h.formulaAt_of_contains (Sheet.contains_of_locate located)]
      rfl

theorem valueView (h : b.Represents s) (row column : Int) (limit : Nat) :
    b.valueView row column limit = (s.valueView row column limit).mapError CellError.failure := by
  rw [Ledger.valueView, Sheet.valueView, h.locate]
  cases located : s.locate row column with
  | error e => rfl
  | ok l =>
      show (b.valueAt l limit >>= fun f => (Tile.ofFormula f).mapError CellError.failure) =
        (Tile.ofFormula (s.shown l limit)).mapError CellError.failure
      rw [h.valueAt_of_contains (Sheet.contains_of_locate located)]
      rfl

theorem formulaView_of_locate (h : b.Represents s) {row column : Int}
    (located : s.locate row column = .ok l) :
    b.formulaView row column = (Tile.ofFormula (s.formula l)).mapError CellError.failure := by
  rw [h.formulaView, Sheet.formulaView, located]
  rfl

theorem valueView_of_locate (h : b.Represents s) {row column : Int}
    (located : s.locate row column = .ok l) (limit : Nat) :
    b.valueView row column limit =
      (Tile.ofFormula (s.shown l limit)).mapError CellError.failure := by
  rw [h.valueView, Sheet.valueView, located]
  rfl

/-! ## Edits -/

theorem prepare (h : b.Represents s) (inside : s.Contains l) (limit : Nat) :
    b.prepare l limit = .ok (s.formula l, s.healthyReaders l limit) := by
  have healthy : (fun c => (b.evaluate c (limit - Sheet.askingCalls)).isOk) =
      fun c => s.evaluates c (limit - Sheet.askingCalls) := by
    funext c
    unfold Sheet.evaluates
    rw [h.evaluate]
    cases s.evaluate c (limit - Sheet.askingCalls) <;> rfl
  rw [Ledger.prepare, h.formulaAt_of_contains inside, h.usedByAt_of_contains inside, healthy]
  rfl

theorem firstFailure? (h : b.Represents s) (cells : List Location) (limit : Nat) :
    b.firstFailure? cells limit = s.firstFailure? cells limit := by
  unfold Ledger.firstFailure? Sheet.firstFailure?
  congr 1
  funext l
  cases evaluated : s.evaluate l limit <;> simp only [h.evaluate, evaluated]

theorem update_cases (h : b.Represents s) (l : Location) (f : Formula) (limit : Nat) :
    (s.Contains l ∧ s.update l f limit = .ok (s.install l f) ∧
      b.update l f limit = (.ok (), b.install l f)) ∨
    ∃ e, s.update l f limit = .error e ∧ b.update l f limit = (.error e.failure, b) := by
  by_cases inside : s.Contains l
  · have changed := h.install inside f
    rw [Sheet.update_of_contains inside, Ledger.update, h.prepare inside]
    simp only [changed.firstFailure?]
    cases failed : (s.install l f).firstFailure? (l :: s.healthyReaders l limit) limit with
    | none => exact .inl ⟨inside, rfl, rfl⟩
    | some cause =>
        -- both tables hold the new formula by now, and writing the previous one undoes that
        refine .inr ⟨_, rfl, ?_⟩
        simp only [h.restore inside]
        rw [rejection, Sheet.reject]
        cases (s.formula l).render <;> rfl
  · right
    refine ⟨_, Sheet.update_of_not_contains inside f limit, ?_⟩
    rw [Ledger.update, Ledger.prepare, h.formulaAt, Sheet.formulaAt, Sheet.check, if_neg inside]
    rfl

theorem edit_update_cases (h : b.Represents s) (l : Location) (f : Formula) (limit : Nat) :
    (s.Contains l ∧ s.edit (.update l f limit) = .ok (.accepted, s.install l f) ∧
      b.edit (.update l f limit) = (.ok .accepted, b.install l f)) ∨
    ∃ failed, s.edit (.update l f limit) = .error failed ∧
      b.edit (.update l f limit) = (.error failed.failure, b) := by
  rw [Sheet.edit, Ledger.edit]
  rcases h.update_cases l f limit with ⟨inside, done, written⟩ | ⟨e, failed, kept⟩
  · rw [done, written]
    exact .inl ⟨inside, rfl, rfl⟩
  · rw [failed, kept]
    exact .inr ⟨e, rfl, rfl⟩

theorem edit_cases (h : b.Represents s) (e : Edit) :
    (∃ l f, s.Contains l ∧ b.write? (.edit e) = some (l, f) ∧
      s.edit e = .ok (.accepted, s.install l f) ∧ b.edit e = (.ok .accepted, b.install l f)) ∨
    (∃ outcome, outcome ≠ .accepted ∧ s.edit e = .ok (outcome, s) ∧ b.edit e = (.ok outcome, b)) ∨
    ∃ failed, s.edit e = .error failed ∧ b.edit e = (.error failed.failure, b) := by
  cases e with
  | update l f limit =>
      rcases h.edit_update_cases l f limit with ⟨inside, done⟩ | failed
      · exact .inl ⟨l, f, inside, rfl, done⟩
      · exact .inr (.inr failed)
  | clear l limit =>
      have cleared : s.edit (.clear l limit) = s.edit (.update l b.background limit) := by
        rw [h.background]
        rfl
      rw [cleared]
      rcases h.edit_update_cases l b.background limit with ⟨inside, done⟩ | failed
      · exact .inl ⟨l, b.background, inside, rfl, done⟩
      · exact .inr (.inr failed)
  | enter row column text limit =>
      rw [Sheet.edit, Ledger.edit, Ledger.enter, write?, h.locate, h.grammar]
      cases located : s.locate row column with
      | error e => exact .inr (.inr ⟨_, Sheet.enter_of_not_locate located text limit, rfl⟩)
      | ok l =>
          rw [Sheet.enter_of_locate located]
          cases read : s.grammar.parse text with
          | error e =>
              cases e with
              | unrecognised piece => exact .inr (.inl ⟨.unparsable text, by simp, rfl, rfl⟩)
              | digits e => exact .inr (.inr ⟨.digits e, rfl, rfl⟩)
          | ok f =>
              simp only
              rcases h.update_cases l f limit with ⟨inside, done, written⟩ | ⟨e, failed, kept⟩
              · rw [done, written]
                exact .inl ⟨l, f, inside, rfl, rfl, rfl⟩
              · rw [failed, kept]
                cases e with
                | rejected r => exact .inr (.inl ⟨.rejected r.cause.message, by simp, rfl, rfl⟩)
                | outOfRange e => exact .inr (.inr ⟨.outOfRange e, rfl, rfl⟩)
                | digits e => exact .inr (.inr ⟨.digits e, rfl, rfl⟩)

/-- A call has the same answer on a ledger and on the sheet that it represents. If it is an edit
that is taken, its write is all that happens, and otherwise nothing happens to either of them. -/
theorem call_cases (h : b.Represents s) (c : Call) :
    (∃ l f, s.Contains l ∧ b.write? c = some (l, f) ∧
      s.call c = (.ok (.edited .accepted), s.install l f) ∧
      b.call c = (.ok (.edited .accepted), b.install l f)) ∨
    ∃ answer, ¬Taken answer ∧ s.call c = (answer, s) ∧ b.call c = (answer, b) := by
  cases c with
  | edit e =>
      rw [Sheet.call, Ledger.call]
      rcases h.edit_cases e with ⟨l, f, inside, write, done, written⟩ |
        ⟨outcome, other, done, kept⟩ | ⟨failed, done, kept⟩
      · rw [done, written]
        exact .inl ⟨l, f, inside, write, rfl, rfl⟩
      · rw [done, kept]
        refine .inr ⟨.ok (.edited outcome), fun taken => other ?_, rfl, rfl⟩
        exact Answer.edited.inj (Except.ok.inj taken)
      · rw [done, kept]
        exact .inr ⟨.error failed.failure, not_taken_error _, rfl, rfl⟩
  | formulaAt l =>
      obtain ⟨look, same⟩ := look_answer .formula (h.formulaAt l) (by simp)
      exact .inr ⟨_, look, congrArg (·, s) same, rfl⟩
  | valueAt l limit =>
      obtain ⟨look, same⟩ := look_answer .formula (h.valueAt l limit) (by simp)
      exact .inr ⟨_, look, congrArg (·, s) same, rfl⟩
  | usedByAt l =>
      obtain ⟨look, same⟩ := look_answer .cells (h.usedByAt l) (by simp)
      exact .inr ⟨_, look, congrArg (·, s) same, rfl⟩
  | formulaView row column =>
      obtain ⟨look, same⟩ := look_answer .tile (h.formulaView row column) (by simp)
      exact .inr ⟨_, look, congrArg (·, s) same, rfl⟩
  | valueView row column limit =>
      obtain ⟨look, same⟩ := look_answer .tile (h.valueView row column limit) (by simp)
      exact .inr ⟨_, look, congrArg (·, s) same, rfl⟩

end Represents

/-! ## New ledgers -/

theorem foldl_install (b : Ledger) (cells : List Location) (f : Formula) :
    cells.foldl (fun b l => b.install l f) b = { b with
      formulas := cells.foldl (fun t l => t.set l f) b.formulas
      environment := cells.foldl (fun t l => t.set l.name f) b.environment } := by
  induction cells generalizing b with
  | nil => rfl
  | cons l cells ih => rw [List.foldl_cons, ih, List.foldl_cons, List.foldl_cons, install]

theorem represents_of_blank (blank : ∀ c, s.formula c = s.grid.background) :
    let unfilled : Ledger := {
      grammar := s.grammar
      builtins := s.builtins
      background := s.grid.background
      rows := s.grid.rows
      columns := s.grid.columns
      columns_le := s.columns_le
      formulas := .empty
      environment := s.builtins }
    (s.cells.foldl (fun b l => b.install l s.grid.background) unfilled).Represents s := by
  intro unfilled
  rw [foldl_install]
  refine ⟨rfl, rfl, rfl, rfl, rfl, ?formulas, ?environment⟩
  case formulas =>
    simp only [blank]
    exact Table.entries_foldl_set (Location.nodup_of_ordered (Location.block_ordered _ _))
  case environment =>
    funext name
    show (s.cells.foldl (fun t l => t.set l.name s.grid.background) s.builtins).get? name = _
    rw [Table.get?_foldl_set]
    split
    · rename_i cell
      obtain ⟨c, member, rfl⟩ := cell
      rw [Sheet.bindings_name (Sheet.mem_cells.mp member), blank]
    · rename_i noCell
      rw [Sheet.bindings_of_no_cell]
      exact fun c inside same => noCell ⟨c, Sheet.mem_cells.mpr inside, same⟩

theorem represents_of_create {grammar : Grammar} {builtins : Table String Formula}
    {background : Formula} {rows columns : Int}
    (created : Sheet.create grammar builtins background rows columns = .ok s) :
    ∃ start, create grammar builtins background rows columns = .ok start ∧ start.Represents s := by
  have blank : ∀ c, s.formula c = background := fun _ => Sheet.formula_of_create created
  unfold Sheet.create Grid.blank? at created
  split at created
  · cases created
  · rename_i grid sized
    split at sized
    · rename_i size
      cases sized
      split at created
      · rename_i narrow
        split at created
        · cases created
        · rename_i clash
          cases created
          refine ⟨_, ?_, represents_of_blank blank⟩
          simp only [create, if_pos size, dif_pos narrow, clash]
          rfl
      · cases created
    · cases sized

theorem create_of_error {grammar : Grammar} {builtins : Table String Formula} {background : Formula}
    {rows columns : Int} {e : SetupError}
    (refused : Sheet.create grammar builtins background rows columns = .error e) :
    create grammar builtins background rows columns = .error e := by
  unfold Sheet.create Grid.blank? at refused
  unfold create
  split at refused
  · rename_i unsized
    split at unsized
    · cases unsized
    · rename_i size
      cases refused
      rw [if_neg size]
  · rename_i grid sized
    split at sized
    · rename_i size
      cases sized
      rw [if_pos size]
      split at refused
      · rename_i narrow
        rw [dif_pos narrow]
        split at refused
        · rename_i clash
          cases refused
          rw [clash]
        · cases refused
      · rename_i wide
        cases refused
        rw [dif_neg wide]
    · cases sized

theorem exists_sheet_of_create {grammar : Grammar} {builtins : Table String Formula}
    {background : Formula} {rows columns : Int}
    (created : create grammar builtins background rows columns = .ok b) :
    ∃ s, Sheet.create grammar builtins background rows columns = .ok s ∧ b.Represents s := by
  cases sheet : Sheet.create grammar builtins background rows columns with
  | error e =>
      rw [create_of_error sheet] at created
      cases created
  | ok s =>
      obtain ⟨start, started, represents⟩ := represents_of_create sheet
      cases Except.ok.inj (started.symm.trans created)
      exact ⟨s, rfl, represents⟩

end FormulaGrid.Ledger
