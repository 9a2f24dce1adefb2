import FormulaGrid.Draft
import FormulaGrid.Proofs.Ledger.Runs

namespace FormulaGrid
open Text

structure Entry where
  row : Int
  column : Int
  text : String
  /-- The limit that is left to a sheet when the text is entered there. -/
  limit : Nat
  deriving DecidableEq

def Entry.call (e : Entry) : Call :=
  .edit (.enter e.row e.column e.text e.limit)

namespace Draft

def take (d : Draft) (e : Entry) : Except Failure Answer × Draft :=
  match d.enter e.row e.column e.text with
  | .ok (outcome, next) => (.ok (.edited outcome), next)
  | .error e => (.error e.failure, d)

def run (d : Draft) (entries : List Entry) : Draft :=
  stateAfter take d entries

def answers (d : Draft) (entries : List Entry) : List (Except Failure Answer) :=
  answersOf take d entries

end Draft

namespace Sheet

/-- The entry is a formula for a cell of the sheet, and with this formula the cell has no value or
takes one away from its readers. -/
def refuses (s : Sheet) (e : Entry) : Bool :=
  match s.locate e.row e.column, s.grammar.parse e.text with
  | .ok l, .ok f =>
    ((s.install l f).firstFailure? (l :: s.healthyReaders l e.limit) e.limit).isSome
  | _, _ => false

/-- The entries that are not refused when all are made one after the other, with their answers. -/
def kept (s : Sheet) : List Entry → List (Entry × Except Failure Answer)
  | [] => []
  | e :: entries =>
    let rest := (s.call e.call).2.kept entries
    if s.refuses e then rest else (e, (s.call e.call).1) :: rest

theorem position?_eq (s : Sheet) (row column : Int) :
    s.grid.position? row column = (s.locate row column).map position := by
  unfold Grid.position? FormulaGrid.position? locate
  split <;> rfl

theorem call_of_refuses {s : Sheet} {e : Entry} (refused : s.refuses e = true) :
    (s.call e.call).2 = s := by
  unfold refuses at refused
  split at refused
  · rename_i l f located read
    obtain ⟨cause, failed⟩ := Option.isSome_iff_exists.mp refused
    have undone : s.update l f e.limit = .error (s.reject l cause) := by
      rw [update_of_contains (contains_of_locate located), failed]
    simp only [Entry.call, call, edit, enter_of_locate located, read, undone]
    cases s.reject l cause <;> rfl
  · cases refused

end Sheet

namespace Draft

structure Follows (d : Draft) (s : Sheet) : Prop where
  grammar : d.grammar = s.grammar
  grid : d.grid = s.grid

variable {d : Draft} {s : Sheet} {e : Entry}

namespace Follows

theorem formulaView (h : d.Follows s) (row column : Int) :
    d.formulaView row column = s.formulaView row column := by
  rw [Draft.formulaView, h.grid, Sheet.position?_eq, Sheet.formulaView]
  cases s.locate row column <;> rfl

theorem take (h : d.Follows s) (taken : s.refuses e = false) :
    (d.take e).1 = (s.call e.call).1 ∧ (d.take e).2.Follows (s.call e.call).2 := by
  rw [Draft.take, Draft.enter, h.grid, h.grammar, Sheet.position?_eq]
  cases located : s.locate e.row e.column with
  | error outside =>
      simp only [Entry.call, Sheet.call, Sheet.edit, Sheet.enter_of_not_locate located]
      exact ⟨rfl, h⟩
  | ok l =>
      simp only [Entry.call, Sheet.call, Sheet.edit, Sheet.enter_of_locate located]
      cases read : s.grammar.parse e.text with
      | error failed =>
          cases failed with
          | unrecognised piece => exact ⟨rfl, h⟩
          | digits limit => exact ⟨rfl, h⟩
      | ok f =>
          have noFailure : (s.install l f).firstFailure? (l :: s.healthyReaders l e.limit) e.limit =
              none := by
            simpa [Sheet.refuses, located, read] using taken
          have done : s.update l f e.limit = .ok (s.install l f) := by
            rw [Sheet.update_of_contains (Sheet.contains_of_locate located), noFailure]
          simp only [done]
          exact ⟨rfl, h.grammar, congrArg (fun grid => grid.set (Sheet.position l) f) h.grid⟩

theorem kept (h : d.Follows s) (entries : List Entry) :
    d.answers ((s.kept entries).map Prod.fst) = (s.kept entries).map Prod.snd ∧
    (d.run ((s.kept entries).map Prod.fst)).Follows (s.perform (entries.map Entry.call)) := by
  induction entries generalizing d s with
  | nil => exact ⟨rfl, h⟩
  | cons e entries ih =>
      have after : s.perform ((e :: entries).map Entry.call) =
          (s.call e.call).2.perform (entries.map Entry.call) := rfl
      rw [after, Sheet.kept]
      by_cases refused : s.refuses e = true
      · -- the draft is spared this entry, and the sheet is the one before it
        rw [if_pos refused, Sheet.call_of_refuses refused]
        exact ih h
      · obtain ⟨same, follows⟩ := h.take (Bool.eq_false_of_not_eq_true refused)
        obtain ⟨answers, final⟩ := ih follows
        rw [if_neg refused]
        exact ⟨congrArg₂ List.cons same answers, final⟩

end Follows

theorem follows_of_create {grammar : Grammar} {builtins : Table String Formula}
    {background : Formula} {rows columns : Int}
    (created : Sheet.create grammar builtins background rows columns = .ok s) :
    ∃ d, create grammar background rows columns = .ok d ∧ d.Follows s := by
  obtain ⟨sameGrammar, -, blank⟩ := Sheet.parts_of_create created
  refine ⟨⟨grammar, s.grid⟩, ?_, sameGrammar.symm, rfl⟩
  rw [create, blank]

/-- A draft that is spared the entries that a sheet refuses answers the others as the sheet does, and at
the end it shows the same formulas as the sheet and its ledger, or the same errors. -/
theorem follows_sheet {grammar : Grammar} {builtins : Table String Formula} {background : Formula}
    {rows columns : Int} (created : Sheet.create grammar builtins background rows columns = .ok s) :
    ∃ d start, create grammar background rows columns = .ok d ∧
      Ledger.create grammar builtins background rows columns = .ok start ∧
      ∀ entries : List Entry,
        let calls := entries.map Entry.call
        let last := d.run ((s.kept entries).map Prod.fst)
        d.answers ((s.kept entries).map Prod.fst) = (s.kept entries).map Prod.snd ∧
        start.answers calls = s.answers calls ∧
        ∀ row column, last.formulaView row column = (s.perform calls).formulaView row column ∧
          (start.run calls).formulaView row column =
            (last.formulaView row column).mapError CellError.failure := by
  obtain ⟨d, drafted, follows⟩ := follows_of_create created
  obtain ⟨start, started, represents⟩ := Ledger.represents_of_create created
  refine ⟨d, start, drafted, started, fun entries => ?_⟩
  intro calls last
  obtain ⟨answers, final⟩ := follows.kept entries
  refine ⟨answers, (represents.run calls).1, fun row column => ?_⟩
  have shown : last.formulaView row column = (s.perform calls).formulaView row column :=
    final.formulaView row column
  rw [shown]
  exact ⟨rfl, (represents.run calls).2.formulaView row column⟩

theorem follows_sheet_without_third : ∃ (spared rest : List Entry) (s : Sheet) (d : Draft),
    spared = [⟨0, 0, "4", callLimit⟩, ⟨0, 1, "8 / A0", callLimit⟩, ⟨0, 0, "0", callLimit⟩] ∧
    rest = [⟨0, 0, "4 4", callLimit⟩, ⟨0, 7, "1", callLimit⟩] ∧
    Sheet.create .stock .empty .empty 1 2 = .ok s ∧ create .stock .empty 1 2 = .ok d ∧
    (s.kept (spared ++ rest)).map Prod.fst = spared.take 2 ++ rest ∧
    (s.kept (spared ++ rest)).map Prod.snd = [.ok (.edited .accepted), .ok (.edited .accepted),
      .ok (.edited (.unparsable "4 4")), .error (.outOfRange (.coordinates 1 2 0 7))] ∧
    d.answers (spared.take 2 ++ rest) = (s.kept (spared ++ rest)).map Prod.snd ∧
    ∀ row column, (d.run (spared.take 2 ++ rest)).formulaView row column =
      (s.perform ((spared ++ rest).map Entry.call)).formulaView row column := by
  obtain ⟨s, created, kept, answered⟩ : ∃ s : Sheet,
      Sheet.create .stock .empty .empty 1 2 = .ok s ∧
      let spared : List Entry :=
        [⟨0, 0, "4", callLimit⟩, ⟨0, 1, "8 / A0", callLimit⟩, ⟨0, 0, "0", callLimit⟩]
      let rest : List Entry := [⟨0, 0, "4 4", callLimit⟩, ⟨0, 7, "1", callLimit⟩]
      (s.kept (spared ++ rest)).map Prod.fst = spared.take 2 ++ rest ∧
      (s.kept (spared ++ rest)).map Prod.snd = [.ok (.edited .accepted), .ok (.edited .accepted),
        .ok (.edited (.unparsable "4 4")), .error (.outOfRange (.coordinates 1 2 0 7))] :=
    ⟨_, rfl, by decide +kernel⟩
  obtain ⟨d, _, drafted, -, runs⟩ := follows_sheet created
  obtain ⟨answers, -, shown⟩ := runs ([⟨0, 0, "4", callLimit⟩, ⟨0, 1, "8 / A0", callLimit⟩,
    ⟨0, 0, "0", callLimit⟩] ++ [⟨0, 0, "4 4", callLimit⟩, ⟨0, 7, "1", callLimit⟩])
  rw [kept] at answers shown
  exact ⟨_, _, s, d, rfl, rfl, created, drafted, kept, answered, answers,
    fun row column => (shown row column).1⟩

end Draft

end FormulaGrid
