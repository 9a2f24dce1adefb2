import FormulaGrid.Proofs.Ledger.Entries

namespace FormulaGrid
open Text

namespace Sheet
variable {s : Sheet} {l : Location} {value : Value} {cause : EvalError} {limit : Nat}

theorem evaluate_install_formula (inside : s.Contains l) (c : Location) (limit : Nat) :
    (s.install l (s.formula l)).evaluate c limit = s.evaluate c limit := by
  rw [evaluate, bindings_install_formula inside, evaluate]

theorem update_formula_of_ok (inside : s.Contains l) (done : s.evaluate l limit = .ok value) :
    s.update l (s.formula l) limit = .ok (s.install l (s.formula l)) := by
  refine update_eq_ok_iff.mpr ⟨inside, rfl, List.forall_mem_cons.mpr ⟨?_, fun c member => ?_⟩⟩
  · rw [evaluates_iff, evaluate_install_formula inside]
    exact ⟨value, done⟩
  · rw [evaluates_iff, evaluate_install_formula inside, ← evaluates_iff]
    exact evaluates_deeper (Nat.sub_le limit askingCalls) (mem_healthyReaders.mp member).2

theorem update_formula_of_error (inside : s.Contains l)
    (failed : s.evaluate l limit = .error cause) :
    s.update l (s.formula l) limit = .error (s.reject l cause) := by
  have first : (s.install l (s.formula l)).firstFailure? (l :: s.healthyReaders l limit) limit =
      some cause := by
    refine firstFailure?_eq_some_iff.mpr ⟨[], l, _, rfl, List.forall_mem_nil _, ?_⟩
    rw [evaluate_install_formula inside, failed]
  rw [update_of_contains inside, first]

end Sheet

namespace Ledger
variable {b : Ledger} {s : Sheet} {l : Location} {rows columns row column : Int} {text : String}
  {limit : Nat}

theorem Represents.install_formula (h : b.Represents s) (inside : s.Contains l) :
    b.install l (s.formula l) = b := by
  have bound : b.environment.get? l.name = some (s.formula l) := by
    rw [h.environment, Sheet.bindings_name inside]
  simp only [Ledger.install, Table.set_of_get? (h.get?_formulas inside), Table.set_of_get? bound]

theorem formulaView_of_legible (h : b.Represents s) (legible : s.Legible rows columns)
    (located : b.locate row column = .ok l) :
    ∃ tile, b.formulaView row column = .ok tile ∧
      b.grammar.parse tile.content = .ok (s.formula l) := by
  obtain ⟨written, rendered, read⟩ := Grammar.parse_rendered (legible.cells l)
  refine ⟨.plain written, ?_, ?_⟩
  · rw [h.locate] at located
    rw [h.formulaView_of_locate located, Tile.ofFormula, rendered]
    rfl
  · rw [h.grammar, legible.grammar]
    exact read

theorem reenter_of_ok {value : Value} (h : b.Represents s) (located : b.locate row column = .ok l)
    (inside : s.Contains l) (read : b.grammar.parse text = .ok (s.formula l))
    (done : s.evaluate l limit = .ok value) :
    b.enter row column text limit = (.ok .accepted, b) := by
  rcases h.update_cases l (s.formula l) limit with ⟨-, -, written⟩ | ⟨e, failed, -⟩
  · rw [h.install_formula inside] at written
    exact enter_accepted located read written
  · rw [Sheet.update_formula_of_ok inside done] at failed
    cases failed

theorem reenter_of_error {cause : EvalError} (h : b.Represents s)
    (legible : s.Legible rows columns) (located : b.locate row column = .ok l)
    (inside : s.Contains l) (read : b.grammar.parse text = .ok (s.formula l))
    (failed : s.evaluate l limit = .error cause) :
    b.enter row column text limit = (.ok (.rejected cause.message), b) := by
  obtain ⟨kept, written, -⟩ := Grammar.parse_rendered (legible.cells l)
  have refused := Sheet.update_formula_of_error inside failed
  rcases h.update_cases l (s.formula l) limit with ⟨-, updated, -⟩ | ⟨e, rejected, unchanged⟩
  · rw [refused] at updated
    cases updated
  · rw [refused, Sheet.reject, written] at rejected
    cases rejected
    exact enter_rejected located read unchanged

/-- Entering the text that a cell shows for its formula leaves the ledger as it is. It is rejected
exactly if the cell has no value, with the type error for which it has none. -/
theorem reentry_changes_nothing {builtins : Table String Formula} {background : Formula}
    (created : Sheet.create .stock builtins background rows columns = .ok s)
    (formed : Bindings.WellFormed builtins.get?)
    (readBack : ∃ written, background.render = .ok written ∧
      Grammar.stock.parse written = .ok background) :
    ∃ start, create .stock builtins background rows columns = .ok start ∧
      ∀ (entries : List Entry) (row column : Int) (limit : Nat),
        0 ≤ row ∧ row < rows → 0 ≤ column ∧ column < columns →
        let b := start.run (entries.map Entry.call)
        ∃ l tile, b.locate row column = .ok l ∧ b.formulaView row column = .ok tile ∧
          (b.enter row column tile.content limit).2 = b ∧
          ((b.enter row column tile.content limit).1 = .ok .accepted ↔
            ∃ value, b.evaluate l limit = .ok value) ∧
          ∀ cause, b.evaluate l limit = .error cause → cause.IsTypeError ∧
            ∃ outcome : Outcome, (b.enter row column tile.content limit).1 = .ok outcome ∧
              outcome.message? = some ("Type error: " ++ cause.message) := by
  obtain ⟨start, started, fresh⟩ := represents_of_create created
  obtain ⟨written, -, back⟩ := readBack
  have blank := Sheet.legible_of_background created formed (Grammar.normal_of_read back)
  refine ⟨start, started, fun entries row column limit inRows inColumns => ?_⟩
  intro b
  have represents : b.Represents (s.perform (entries.map Entry.call)) := (fresh.run _).2
  have legible := blank.perform entries
  obtain ⟨l, located⟩ := legible.locate inRows inColumns
  have inside := Sheet.contains_of_locate located
  rw [← represents.locate] at located
  obtain ⟨tile, shown, read⟩ := formulaView_of_legible represents legible located
  refine ⟨l, tile, located, shown, ?_⟩
  rw [represents.evaluate]
  cases evaluated : (s.perform (entries.map Entry.call)).evaluate l limit with
  | ok value => simp [reenter_of_ok represents located inside read evaluated]
  | error cause =>
      have typeError := Sheet.isTypeError_of_evaluate legible.wellFormed evaluated
      simp [reenter_of_error represents legible located inside read evaluated, typeError,
        Outcome.message?]

theorem reentry_changes_nothing_circle : ∃ start : Ledger,
    create .stock .empty (.reference "C0") 1 3 = .ok start ∧
    let b := start.run (([⟨0, 0, "7", callLimit⟩, ⟨0, 1, "A0 + C0", callLimit⟩] : List Entry).map
      Entry.call)
    b.formulas.entries.map Prod.snd = [.constant 7, .reference "C0", .reference "C0"] ∧
    b.enter 0 0 "7" = (.ok .accepted, b) ∧
    (b.enter 0 1 "C0").2 = b ∧ ∃ outcome : Outcome, (b.enter 0 1 "C0").1 = .ok outcome ∧
      outcome.message? = some "Type error: circular reference through C0" := by
  obtain ⟨s, created⟩ : ∃ s : Sheet, Sheet.create .stock .empty (.reference "C0") 1 3 = .ok s :=
    ⟨_, rfl⟩
  have formed : Bindings.WellFormed (Table.empty : Table String Formula).get? :=
    Table.wellFormed_get? (List.forall_mem_nil _)
  obtain ⟨start, started, reentry⟩ := reentry_changes_nothing created formed ⟨"C0", rfl, rfl⟩
  obtain ⟨again, started', stored, first, number, second, circle⟩ : ∃ start : Ledger,
      create .stock .empty (.reference "C0") 1 3 = .ok start ∧
      let b := start.run (([⟨0, 0, "7", callLimit⟩, ⟨0, 1, "A0 + C0", callLimit⟩] : List Entry).map
        Entry.call)
      b.formulas.entries.map Prod.snd = [.constant 7, .reference "C0", .reference "C0"] ∧
      (b.locate 0 0 = .ok ⟨0, 0⟩ ∧ b.formulaView 0 0 = .ok (.plain "7")) ∧
      b.evaluate ⟨0, 0⟩ = .ok (.number 7) ∧
      (b.locate 0 1 = .ok ⟨0, 1⟩ ∧ b.formulaView 0 1 = .ok (.plain "C0")) ∧
      b.evaluate ⟨0, 1⟩ = .error (.circular "C0") :=
    ⟨_, rfl, by decide +kernel⟩
  cases Except.ok.inj (started.symm.trans started')
  obtain ⟨l, tile, located, shown, same, accepted, -⟩ := reentry
    [⟨0, 0, "7", callLimit⟩, ⟨0, 1, "A0 + C0", callLimit⟩] 0 0 callLimit (by decide) (by decide)
  cases Except.ok.inj (first.1.symm.trans located)
  cases Except.ok.inj (first.2.symm.trans shown)
  obtain ⟨l, tile, located, shown, same', -, rejected⟩ := reentry
    [⟨0, 0, "7", callLimit⟩, ⟨0, 1, "A0 + C0", callLimit⟩] 0 1 callLimit (by decide) (by decide)
  cases Except.ok.inj (second.1.symm.trans located)
  cases Except.ok.inj (second.2.symm.trans shown)
  obtain ⟨-, outcome, answer, message⟩ := rejected _ circle
  exact ⟨start, started, stored, Prod.ext (accepted.mpr ⟨_, number⟩) same, same', outcome, answer,
    message⟩

end Ledger

end FormulaGrid
