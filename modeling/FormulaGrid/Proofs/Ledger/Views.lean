import FormulaGrid.Proofs.Ledger.Entries

namespace FormulaGrid
open Text

/-! ## Tiles -/

theorem Value.render_eq_error_iff {value : Value} {limit : DigitLimit} :
    value.formula.render = .error limit ↔ limit = .writing ∧
      ∃ n, value = .number n ∧ maxDigits < (Nat.toDigits 10 n.natAbs).length := by
  cases value with
  | number n =>
      rw [Value.formula, Formula.render, Formula.text, map_eq_error, writeInteger_eq_error_iff]
      simp only [Value.number.injEq, exists_eq_left']
  | empty => simp [Value.formula, Formula.render, Formula.text, Except.map]
  | unbound name => simp [Value.formula, Formula.render, Formula.text, Except.map]

theorem Tile.ofFormula_of_render {f : Formula} {written : String}
    (rendered : f.render = .ok written) : Tile.ofFormula f = .ok (.plain written) := by
  rw [Tile.ofFormula, rendered]
  rfl

theorem Tile.failure_ofFormula_iff {f : Formula} {failure : Failure} :
    (Tile.ofFormula f).mapError CellError.failure = .error failure ↔
      ∃ limit, f.render = .error limit ∧ failure = .digits limit := by
  unfold Tile.ofFormula
  cases f.render with
  | ok written => simp [Except.map, Except.mapError]
  | error limit => simp [Except.map, Except.mapError, CellError.failure, eq_comm]

/-! ## Writable sheets -/

namespace Sheet
variable {s next : Sheet} {l : Location} {f : Formula} {rows columns : Int} {limit : Nat}

structure Writable (rows columns : Int) (s : Sheet) : Prop extends Formed rows columns s where
  written : ∀ c, ∃ text, (s.formula c).render = .ok text

theorem writable_of_create {grammar : Grammar} {builtins : Table String Formula}
    {background : Formula} (created : create grammar builtins background rows columns = .ok s)
    (named : Bindings.WellFormed builtins.get?) (formed : background.WellFormed)
    (written : ∃ text, background.render = .ok text) : s.Writable rows columns := by
  refine ⟨formed_of_create created named formed, fun c => ?_⟩
  rwa [formula_of_create created]

namespace Writable

theorem update (writable : s.Writable rows columns) {text : String}
    (read : s.grammar.parse text = .ok f) (updated : s.update l f limit = .ok next) :
    next.Writable rows columns := by
  obtain ⟨-, rfl, -⟩ := update_eq_ok_iff.mp updated
  refine ⟨writable.install (Grammar.normal_of_read read).wellFormed l, fun c => ?_⟩
  rw [formula_install]
  split
  · obtain ⟨written, rendered, -⟩ := parse_render_parse read
    exact ⟨written, rendered⟩
  · exact writable.written c

theorem perform (writable : s.Writable rows columns) (entries : List Entry) :
    (s.perform (entries.map Entry.call)).Writable rows columns :=
  perform_entries_induction (Writable rows columns) (fun _ _ _ _ _ _ good => good.update) writable
    entries

end Writable

theorem shown_of_ok {value : Value} (done : s.evaluate l limit = .ok value) :
    s.shown l limit = value.formula := by
  unfold shown
  rw [done]

theorem shown_of_error {cause : EvalError} (failed : s.evaluate l limit = .error cause) :
    s.shown l limit = s.formula l := by
  unfold shown
  rw [failed]

end Sheet

/-! ## Views -/

namespace Ledger
variable {b : Ledger} {s : Sheet} {l : Location} {rows columns row column : Int} {limit : Nat}

theorem Represents.formulaView_of_writable (h : b.Represents s) (writable : s.Writable rows columns)
    (located : s.locate row column = .ok l) : ∃ written, (s.formula l).render = .ok written ∧
      b.formulaView row column = .ok (.plain written) := by
  obtain ⟨written, rendered⟩ := writable.written l
  refine ⟨written, rendered, ?_⟩
  rw [h.formulaView_of_locate located, Tile.ofFormula_of_render rendered]
  rfl

theorem Represents.valueView_of_error {cause : EvalError} (h : b.Represents s)
    (located : s.locate row column = .ok l) (failed : s.evaluate l limit = .error cause) :
    b.valueView row column limit = b.formulaView row column := by
  rw [h.valueView_of_locate located, Sheet.shown_of_error failed, h.formulaView_of_locate located]

theorem Represents.valueView_eq_error_iff (h : b.Represents s) (writable : s.Writable rows columns)
    (located : s.locate row column = .ok l) {failure : Failure} :
    b.valueView row column limit = .error failure ↔ failure = .digits .writing ∧ ∃ n,
      s.evaluate l limit = .ok (.number n) ∧ maxDigits < (Nat.toDigits 10 n.natAbs).length := by
  cases evaluated : s.evaluate l limit with
  | error cause =>
      obtain ⟨written, -, view⟩ := h.formulaView_of_writable writable located
      rw [h.valueView_of_error located evaluated, view]
      simp
  | ok value =>
      rw [h.valueView_of_locate located, Sheet.shown_of_ok evaluated, Tile.failure_ofFormula_iff]
      simp only [Value.render_eq_error_iff, Except.ok.injEq]
      constructor
      · rintro ⟨_, ⟨rfl, long⟩, rfl⟩
        exact ⟨rfl, long⟩
      · rintro ⟨rfl, long⟩
        exact ⟨_, ⟨rfl, long⟩, rfl⟩

/-- Every cell shows its formula. Its value is not shown exactly if it is a number that is too long, and
a cell without a value shows its formula in both views. -/
theorem views_of_entered {grammar : Grammar} {builtins : Table String Formula}
    {background : Formula} {start : Ledger}
    (created : create grammar builtins background rows columns = .ok start)
    (named : Bindings.WellFormed builtins.get?) (formed : background.WellFormed)
    (written : ∃ text, background.render = .ok text) (entries : List Entry) (limit : Nat)
    (inRows : 0 ≤ row ∧ row < rows) (inColumns : 0 ≤ column ∧ column < columns) :
    let b := start.run (entries.map Entry.call)
    ∃ l f text, b.locate row column = .ok l ∧ b.stored l = .ok f ∧ f.render = .ok text ∧
      b.formulaView row column = .ok (.plain text) ∧
      (∀ failure, b.valueView row column limit = .error failure ↔ failure = .digits .writing ∧
        ∃ n, b.evaluate l limit = .ok (.number n) ∧ maxDigits < (Nat.toDigits 10 n.natAbs).length) ∧
      ∀ cause, b.evaluate l limit = .error cause → cause.IsTypeError ∧
        b.valueView row column limit = b.formulaView row column := by
  intro b
  obtain ⟨s, blank, fresh⟩ := exists_sheet_of_create created
  have represents : b.Represents (s.perform (entries.map Entry.call)) := (fresh.run _).2
  have writable := (Sheet.writable_of_create blank named formed written).perform entries
  obtain ⟨l, located⟩ := writable.locate inRows inColumns
  obtain ⟨text, rendered, view⟩ := represents.formulaView_of_writable writable located
  refine ⟨l, _, text, represents.locate row column ▸ located,
    represents.stored (Sheet.contains_of_locate located), rendered, view, ?_⟩
  rw [represents.evaluate]
  refine ⟨fun failure => represents.valueView_eq_error_iff writable located, fun cause failed => ?_⟩
  exact ⟨Sheet.isTypeError_of_evaluate writable.wellFormed failed,
    represents.valueView_of_error located failed⟩

theorem views_of_entered_one_apart : ∃ (power : Nat) (start : Ledger), power = Nat.pow 10 maxDigits ∧
    create .stock (.ofList [("power", .constant power)]) (.reference "C0") 1 3 = .ok start ∧
    let b := start.run (([⟨0, 0, "1 - power", callLimit⟩, ⟨0, 1, "0 - power", callLimit⟩] :
      List Entry).map Entry.call)
    (b.evaluate ⟨0, 0⟩ = .ok (.number (1 - power)) ∧ ∃ tile, b.valueView 0 0 = .ok tile) ∧
    (b.evaluate ⟨0, 1⟩ = .ok (.number (-power)) ∧ b.valueView 0 1 = .error (.digits .writing) ∧
      ∃ written, b.formulaView 0 1 = .ok (.plain written)) ∧
    b.evaluate ⟨0, 2⟩ = .error (.circular "C0") ∧ b.valueView 0 2 = b.formulaView 0 2 := by
  obtain ⟨power, size⟩ : ∃ power : Nat, power = Nat.pow 10 maxDigits := ⟨_, rfl⟩
  have long {n : Int} : maxDigits < (Nat.toDigits 10 n.natAbs).length ↔ power ≤ n.natAbs := by
    rw [← Nat.not_le, length_toDigits_le_maxDigits_iff, ← size, Nat.not_lt]
  have positive : 0 < power := by
    rw [size, Nat.pow_eq]
    exact Nat.pow_pos (by decide)
  have named : Bindings.WellFormed (Table.ofList [("power", Formula.constant power)]).get? :=
    Table.wellFormed_get? (List.forall_mem_singleton.mpr (.constant power))
  obtain ⟨start, created, first, second, third⟩ : ∃ start : Ledger,
      create .stock (.ofList [("power", .constant power)]) (.reference "C0") 1 3 = .ok start ∧
      let b := start.run (([⟨0, 0, "1 - power", callLimit⟩, ⟨0, 1, "0 - power", callLimit⟩] :
        List Entry).map Entry.call)
      (b.locate 0 0 = .ok ⟨0, 0⟩ ∧ b.evaluate ⟨0, 0⟩ = .ok (.number (1 - power))) ∧
      (b.locate 0 1 = .ok ⟨0, 1⟩ ∧ b.evaluate ⟨0, 1⟩ = .ok (.number (-power))) ∧
      b.locate 0 2 = .ok ⟨0, 2⟩ ∧ b.evaluate ⟨0, 2⟩ = .error (.circular "C0") := by
    rw [size]
    exact ⟨_, rfl, by decide +kernel⟩
  have views (column : Int) (inColumns : 0 ≤ column ∧ column < 3) :=
    views_of_entered created named (.reference (by decide)) ⟨"C0", rfl⟩
      [⟨0, 0, "1 - power", callLimit⟩, ⟨0, 1, "0 - power", callLimit⟩] callLimit
      (by decide : (0 : Int) ≤ 0 ∧ (0 : Int) < 1) inColumns
  refine ⟨power, start, size, created, ⟨first.2, ?shown⟩, ⟨second.2, ?hidden⟩, third.2, ?circle⟩
  case shown =>
    obtain ⟨l, -, -, located, -, -, -, fails, -⟩ := views 0 (by decide)
    cases Except.ok.inj (first.1.symm.trans located)
    cases view : (start.run _).valueView 0 0 with
    | ok tile => exact ⟨tile, rfl⟩
    | error failure =>
        obtain ⟨-, n, evaluated, digits⟩ := (fails failure).mp view
        cases first.2.symm.trans evaluated
        rw [long] at digits
        omega
  case hidden =>
    obtain ⟨l, -, written, located, -, -, view, fails, -⟩ := views 1 (by decide)
    cases Except.ok.inj (second.1.symm.trans located)
    have digits : power ≤ (-(power : Int)).natAbs := by omega
    exact ⟨(fails _).mpr ⟨rfl, _, second.2, long.mpr digits⟩, written, view⟩
  case circle =>
    obtain ⟨l, -, -, located, -, -, -, -, same⟩ := views 2 (by decide)
    cases Except.ok.inj (third.1.symm.trans located)
    exact (same _ third.2).2

end Ledger

end FormulaGrid
