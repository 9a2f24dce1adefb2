import FormulaGrid.Proofs.Ledger.Agreement

namespace FormulaGrid.Ledger
open Text

structure Coherent (b : Ledger) : Prop where
  cells : ∀ l, l ∈ b.formulas.keys ↔ l.row < b.rows ∧ l.column.val < b.columns
  names : ∀ name, name ∈ b.environment.keys ↔
    name ∈ b.builtins.keys ∨ ∃ l ∈ b.formulas.keys, l.name = name
  apart : ∀ l ∈ b.formulas.keys, l.name ∉ b.builtins.keys
  cell : ∀ l ∈ b.formulas.keys, b.environment.get? l.name = b.formulas.get? l
  builtin : ∀ name ∈ b.builtins.keys, b.environment.get? name = b.builtins.get? name

def accepted (b : Ledger) : List Call → List (Location × Formula)
  | [] => []
  | c :: calls =>
    let written := if Taken (b.call c).1 then (b.write? c).toList else []
    written ++ (b.call c).2.accepted calls

/-- If each step of two systems gives the same answer and keeps their states related, so does every
run. -/
theorem simulation {σ τ α β : Type} (Related : σ → τ → Prop) {step : σ → α → β × σ}
    {step' : τ → α → β × τ} (each : ∀ s t x, Related s t →
      (step s x).1 = (step' t x).1 ∧ Related (step s x).2 (step' t x).2)
    {s : σ} {t : τ} (start : Related s t) (xs : List α) :
    answersOf step s xs = answersOf step' t xs ∧
      Related (stateAfter step s xs) (stateAfter step' t xs) := by
  induction xs generalizing s t with
  | nil => exact ⟨rfl, start⟩
  | cons x xs ih =>
      obtain ⟨same, next⟩ := each s t x start
      obtain ⟨answers, last⟩ := ih next
      exact ⟨congrArg₂ List.cons same answers, last⟩

variable {b : Ledger} {s : Sheet} {c : Call}

namespace Represents

theorem coherent (h : b.Represents s) : b.Coherent where
  cells l := by
    rw [h.keys_formulas, Sheet.mem_cells, h.rows, h.columns]
    rfl
  names name := by
    rw [Table.mem_keys_iff, h.environment, h.builtins, h.keys_formulas]
    by_cases cell : ∃ l ∈ s.cells, l.name = name
    · obtain ⟨l, member, rfl⟩ := cell
      have bound := Sheet.isSome_bindings_name (Sheet.mem_cells.mp member)
      exact iff_of_true bound (.inr ⟨l, member, rfl⟩)
    · rw [or_iff_left cell, Table.mem_keys_iff, Sheet.bindings_of_no_cell]
      exact fun l inside same => cell ⟨l, Sheet.mem_cells.mpr inside, same⟩
  apart l _ listed := by
    rw [h.builtins] at listed
    have apart := s.builtins_apart l.name listed
    rw [Location.denoted?_name] at apart
    cases apart
  cell l member := by
    rw [h.keys_formulas, Sheet.mem_cells] at member
    rw [h.environment, Sheet.bindings_name member, h.get?_formulas member]
  builtin name listed := by
    obtain ⟨f, entry⟩ := Option.isSome_iff_exists.mp (Table.mem_keys_iff.mp listed)
    rw [h.builtins] at entry
    rw [h.environment, h.builtins, entry, Sheet.bindings_builtin entry]

theorem call (h : b.Represents s) (c : Call) :
    (b.call c).1 = (s.call c).1 ∧ (b.call c).2.Represents (s.call c).2 := by
  rcases h.call_cases c with ⟨l, f, inside, -, onSheet, onLedger⟩ | ⟨answer, -, onSheet, onLedger⟩
  · rw [onSheet, onLedger]
    exact ⟨rfl, h.install inside f⟩
  · rw [onSheet, onLedger]
    exact ⟨rfl, h⟩

theorem run (h : b.Represents s) (calls : List Call) :
    b.answers calls = s.answers calls ∧ (b.run calls).Represents (s.perform calls) :=
  simulation Represents (fun _ _ c related => related.call c) h calls

theorem formulas_run (h : b.Represents s) (calls : List Call) : (b.run calls).formulas =
    (b.accepted calls).foldl (fun t write => t.set write.1 write.2) b.formulas := by
  induction calls generalizing b s with
  | nil => rfl
  | cons c calls ih =>
      have step : b.run (c :: calls) = (b.call c).2.run calls := rfl
      rw [step, ih (h.call c).2, accepted, List.foldl_append]
      congr 1
      rcases h.call_cases c with ⟨l, f, -, write, -, taken⟩ | ⟨answer, other, -, kept⟩
      · have yes : Taken (b.call c).1 := congrArg Prod.fst taken
        rw [if_pos yes, write, taken]
        rfl
      · rw [kept, if_neg other]
        rfl

theorem setting_call (h : b.Represents s) (c : Call) : (b.call c).2.builtins = b.builtins ∧
    (b.call c).2.rows = b.rows ∧ (b.call c).2.columns = b.columns := by
  rcases h.call_cases c with ⟨l, f, -, -, -, taken⟩ | ⟨answer, -, -, kept⟩
  · rw [taken]
    exact ⟨rfl, rfl, rfl⟩
  · rw [kept]
    exact ⟨rfl, rfl, rfl⟩

theorem setting_run (h : b.Represents s) (calls : List Call) : (b.run calls).builtins = b.builtins ∧
    (b.run calls).rows = b.rows ∧ (b.run calls).columns = b.columns := by
  induction calls generalizing b s with
  | nil => exact ⟨rfl, rfl, rfl⟩
  | cons c calls ih =>
      have first := h.setting_call c
      have rest := ih (h.call c).2
      exact ⟨rest.1.trans first.1, rest.2.1.trans first.2.1, rest.2.2.trans first.2.2⟩

theorem call_of_not_taken (h : b.Represents s) (other : ¬Taken (b.call c).1) :
    (b.call c).2 = b := by
  rcases h.call_cases c with ⟨l, f, -, -, -, taken⟩ | ⟨answer, -, -, kept⟩
  · rw [taken] at other
    exact absurd rfl other
  · rw [kept]

end Represents

theorem call_of_look (look : ∀ e, c ≠ .edit e) : (b.call c).2 = b := by
  cases c with
  | edit e => exact absurd rfl (look e)
  | _ => rfl

/-- A new ledger answers every run of calls as the sheet does, with both tables in step, and its formulas
are those of the background overwritten by the edits that were taken. -/
theorem run_coherent {grammar : Grammar} {builtins : Table String Formula} {background : Formula}
    {rows columns : Int} (created : Sheet.create grammar builtins background rows columns = .ok s) :
    ∃ start, create grammar builtins background rows columns = .ok start ∧
      (∀ l ∈ start.formulas.keys, start.formulas.get? l = some background) ∧
      ∀ calls : List Call,
        let reached := start.run calls
        reached.Represents (s.perform calls) ∧ start.answers calls = s.answers calls ∧
        reached.Coherent ∧ reached.builtins = builtins ∧
        (reached.rows : Int) = rows ∧ (reached.columns : Int) = columns ∧
        reached.formulas = (start.accepted calls).foldl
          (fun t write => t.set write.1 write.2) start.formulas ∧
        ∀ c, (∀ e, c ≠ .edit e) ∨ ¬Taken (reached.call c).1 → (reached.call c).2 = reached := by
  obtain ⟨start, started, h⟩ := represents_of_create created
  obtain ⟨-, builtins_eq, blank⟩ := Sheet.parts_of_create created
  obtain ⟨rows_eq, columns_eq⟩ := Grid.size_of_blank? blank
  refine ⟨start, started, fun l member => ?_, fun calls => ?_⟩
  · rw [h.keys_formulas, Sheet.mem_cells] at member
    rw [h.get?_formulas member, Sheet.formula_of_create created]
  · intro reached
    obtain ⟨answers, represents⟩ : start.answers calls = s.answers calls ∧
      reached.Represents (s.perform calls) := h.run calls
    obtain ⟨sameBuiltins, sameRows, sameColumns⟩ := h.setting_run calls
    refine ⟨represents, answers, represents.coherent, ?_, ?_, ?_, h.formulas_run calls, ?_⟩
    · rw [sameBuiltins, h.builtins, builtins_eq]
    · rw [sameRows, h.rows, rows_eq]
    · rw [sameColumns, h.columns, columns_eq]
    · rintro c (look | other)
      · exact call_of_look look
      · exact represents.call_of_not_taken other

theorem run_coherent_rolled_back : ∃ (calls : List Call) (s : Sheet) (start : Ledger),
    calls = [.edit (.enter 0 0 "ten"), .edit (.enter 0 1 "ten / A0"), .edit (.enter 0 0 "0"),
      .edit (.enter 0 7 "1"), .edit (.enter 0 0 "?"), .usedByAt ⟨0, 0⟩, .edit (.clear ⟨0, 1⟩)] ∧
    Sheet.create .stock (.ofList [("ten", .constant 10)]) .empty 1 2 = .ok s ∧
    create .stock (.ofList [("ten", .constant 10)]) .empty 1 2 = .ok start ∧
    start.accepted calls = [(⟨0, 0⟩, .reference "ten"),
      (⟨0, 1⟩, .operator .divide [.reference "ten", .reference "A0"]), (⟨0, 1⟩, .empty)] ∧
    (start.run calls).formulas.entries = [(⟨0, 0⟩, .reference "ten"), (⟨0, 1⟩, .empty)] ∧
    (start.run calls).Coherent ∧ start.answers calls = s.answers calls ∧
    ¬Taken ((start.run calls).call (.edit (.enter 0 0 "A0"))).1 ∧
    ((start.run calls).call (.edit (.enter 0 0 "A0"))).2 = start.run calls := by
  obtain ⟨start, started, writes, entries, refused⟩ : ∃ start : Ledger,
      create .stock (.ofList [("ten", .constant 10)]) .empty 1 2 = .ok start ∧
      let calls : List Call := [.edit (.enter 0 0 "ten"), .edit (.enter 0 1 "ten / A0"),
        .edit (.enter 0 0 "0"), .edit (.enter 0 7 "1"), .edit (.enter 0 0 "?"), .usedByAt ⟨0, 0⟩,
        .edit (.clear ⟨0, 1⟩)]
      start.accepted calls = [(⟨0, 0⟩, .reference "ten"),
        (⟨0, 1⟩, .operator .divide [.reference "ten", .reference "A0"]), (⟨0, 1⟩, .empty)] ∧
      (start.run calls).formulas.entries = [(⟨0, 0⟩, .reference "ten"), (⟨0, 1⟩, .empty)] ∧
      ¬Taken ((start.run calls).call (.edit (.enter 0 0 "A0"))).1 :=
    ⟨_, rfl, by decide +kernel⟩
  obtain ⟨s, created⟩ : ∃ s : Sheet,
      Sheet.create .stock (.ofList [("ten", .constant 10)]) .empty 1 2 = .ok s := ⟨_, rfl⟩
  obtain ⟨same, again, -, runs⟩ := run_coherent created
  cases Except.ok.inj (started.symm.trans again)
  obtain ⟨-, answers, coherent, -, -, -, -, kept⟩ := runs [.edit (.enter 0 0 "ten"),
    .edit (.enter 0 1 "ten / A0"), .edit (.enter 0 0 "0"), .edit (.enter 0 7 "1"),
    .edit (.enter 0 0 "?"), .usedByAt ⟨0, 0⟩, .edit (.clear ⟨0, 1⟩)]
  exact ⟨_, s, start, rfl, created, started, writes, entries, coherent, answers, refused,
    kept _ (.inr refused)⟩

end FormulaGrid.Ledger
