import FormulaGrid.Proofs.Drafts
import FormulaGrid.Proofs.Formula.RoundTrip
import FormulaGrid.Proofs.Sheet.Failures

namespace FormulaGrid
open Text

namespace Sheet
variable {s next : Sheet} {l : Location} {f : Formula} {limit : Nat}

/-! ## Runs of entries -/

theorem call_entry_cases (s : Sheet) (e : Entry) : (s.call e.call).2 = s ∨
    ∃ l f, s.grammar.parse e.text = .ok f ∧ s.update l f e.limit = .ok (s.call e.call).2 := by
  simp only [Entry.call, call, edit]
  cases located : s.locate e.row e.column with
  | error outside =>
      rw [enter_of_not_locate located]
      exact .inl rfl
  | ok l =>
      rw [enter_of_locate located]
      cases read : s.grammar.parse e.text with
      | error failed => cases failed <;> exact .inl rfl
      | ok f =>
          cases done : s.update l f e.limit with
          | error failed =>
              simp only [done]
              cases failed <;> exact .inl rfl
          | ok next =>
              simp only [done]
              exact .inr ⟨l, f, rfl, done⟩

theorem perform_entries_induction (Good : Sheet → Prop)
    (step : ∀ s text l f limit next, Good s → s.grammar.parse text = .ok f →
      s.update l f limit = .ok next → Good next) (start : Good s) (entries : List Entry) :
    Good (s.perform (entries.map Entry.call)) := by
  induction entries generalizing s with
  | nil => exact start
  | cons e entries ih =>
      have first : s.perform ((e :: entries).map Entry.call) =
          (s.call e.call).2.perform (entries.map Entry.call) := rfl
      rw [first]
      apply ih
      rcases s.call_entry_cases e with same | ⟨l, f, read, updated⟩
      · rwa [same]
      · exact step s e.text l f e.limit _ start read updated

/-! ## Well-formed sheets -/

structure Formed (rows columns : Int) (s : Sheet) : Prop where
  rows : (s.grid.rows : Int) = rows
  columns : (s.grid.columns : Int) = columns
  builtins : Bindings.WellFormed s.builtins.get?
  cells : ∀ c, (s.formula c).WellFormed

variable {rows columns : Int}

theorem formed_of_create {grammar : Grammar} {builtins : Table String Formula}
    {background : Formula} (created : create grammar builtins background rows columns = .ok s)
    (named : Bindings.WellFormed builtins.get?) (blankFormed : background.WellFormed) :
    s.Formed rows columns := by
  obtain ⟨-, sameBuiltins, blank⟩ := parts_of_create created
  obtain ⟨sameRows, sameColumns⟩ := Grid.size_of_blank? blank
  refine ⟨sameRows, sameColumns, by rwa [sameBuiltins], fun c => ?_⟩
  rwa [formula_of_create created]

namespace Formed

theorem install (formed : s.Formed rows columns) (new : f.WellFormed) (l : Location) :
    (s.install l f).Formed rows columns := by
  refine ⟨formed.rows, formed.columns, formed.builtins, fun c => ?_⟩
  rw [formula_install]
  split
  · exact new
  · exact formed.cells c

theorem wellFormed (formed : s.Formed rows columns) : s.bindings.WellFormed :=
  wellFormed_bindings formed.builtins formed.cells

theorem locate (formed : s.Formed rows columns) {row column : Int}
    (inRows : 0 ≤ row ∧ row < rows) (inColumns : 0 ≤ column ∧ column < columns) :
    ∃ l, s.locate row column = .ok l := by
  have inside : InBounds s.grid.rows s.grid.columns row column :=
    ⟨inRows.1, formed.rows ▸ inRows.2, inColumns.1, formed.columns ▸ inColumns.2⟩
  exact ⟨_, dif_pos inside⟩

end Formed

/-! ## Legible sheets -/

structure Legible (rows columns : Int) (s : Sheet) : Prop where
  grammar : s.grammar = .stock
  rows : (s.grid.rows : Int) = rows
  columns : (s.grid.columns : Int) = columns
  builtins : Bindings.WellFormed s.builtins.get?
  cells : ∀ c, Grammar.stock.Normal (s.formula c)

theorem legible_of_background {builtins : Table String Formula} {background : Formula}
    (created : create .stock builtins background rows columns = .ok s)
    (formed : Bindings.WellFormed builtins.get?) (normal : Grammar.stock.Normal background) :
    s.Legible rows columns := by
  obtain ⟨grammar, -, -⟩ := parts_of_create created
  obtain ⟨sameRows, sameColumns, named, -⟩ := formed_of_create created formed normal.wellFormed
  refine ⟨grammar, sameRows, sameColumns, named, fun c => ?_⟩
  rwa [formula_of_create created]

theorem legible_of_create {builtins : Table String Formula}
    (created : create .stock builtins .empty rows columns = .ok s)
    (formed : Bindings.WellFormed builtins.get?) : s.Legible rows columns :=
  legible_of_background created formed .empty

namespace Legible

theorem update (legible : s.Legible rows columns) {text : String}
    (read : s.grammar.parse text = .ok f) (updated : s.update l f limit = .ok next) :
    next.Legible rows columns := by
  obtain ⟨-, rfl, -⟩ := update_eq_ok_iff.mp updated
  refine ⟨legible.grammar, legible.rows, legible.columns, legible.builtins, fun c => ?_⟩
  rw [legible.grammar] at read
  rw [formula_install]
  split
  · exact Grammar.normal_of_read read
  · exact legible.cells c

theorem perform (legible : s.Legible rows columns) (entries : List Entry) :
    (s.perform (entries.map Entry.call)).Legible rows columns :=
  perform_entries_induction (Legible rows columns) (fun _ _ _ _ _ _ good => good.update) legible
    entries

theorem formed (legible : s.Legible rows columns) : s.Formed rows columns :=
  ⟨legible.rows, legible.columns, legible.builtins, fun c => (legible.cells c).wellFormed⟩

theorem wellFormed (legible : s.Legible rows columns) : s.bindings.WellFormed :=
  legible.formed.wellFormed

theorem locate (legible : s.Legible rows columns) {row column : Int}
    (inRows : 0 ≤ row ∧ row < rows) (inColumns : 0 ≤ column ∧ column < columns) :
    ∃ l, s.locate row column = .ok l :=
  legible.formed.locate inRows inColumns

theorem rejected (legible : s.Legible rows columns) {e : EditError} (inside : s.Contains l)
    (new : f.WellFormed) (failed : s.update l f limit = .error e) :
    ∃ r, e = .rejected r ∧ r.cause.IsTypeError := by
  obtain ⟨-, c, -, cause, -, -, stops, rfl⟩ := update_error_cases inside failed
  obtain ⟨kept, written, -⟩ := Grammar.parse_rendered (legible.cells l)
  refine ⟨⟨l, kept, cause⟩, ?_,
    isTypeError_of_evaluate (wellFormed_install legible.wellFormed inside new) stops⟩
  rw [reject, written]

end Legible

end Sheet

/-! ## Answers -/

theorem short_of_mem_pieces {text : String} {piece : List Char}
    (member : piece ∈ pieces text.toList) : piece.length ≤ text.length := by
  rw [← String.length_toList]
  exact length_le_of_mem_trimmedParts member

namespace Ledger
variable {b : Ledger} {s : Sheet} {l : Location} {f : Formula} {rows columns row column : Int}
  {text : String} {limit : Nat}

theorem enter_unrecognised {part : String} (located : b.locate row column = .ok l)
    (refused : b.grammar.parse text = .error (.unrecognised part)) :
    b.enter row column text limit = (.ok (.unparsable text), b) := by
  unfold enter
  simp only [located, refused]

theorem enter_digits {tooLong : DigitLimit} (located : b.locate row column = .ok l)
    (refused : b.grammar.parse text = .error (.digits tooLong)) :
    b.enter row column text limit = (.error (.digits tooLong), b) := by
  unfold enter
  simp only [located, refused]

theorem enter_accepted {next : Ledger} (located : b.locate row column = .ok l)
    (read : b.grammar.parse text = .ok f) (written : b.update l f limit = (.ok (), next)) :
    b.enter row column text limit = (.ok .accepted, next) := by
  unfold enter
  simp only [located, read, written]

theorem enter_rejected {r : Rejection} {next : Ledger} (located : b.locate row column = .ok l)
    (read : b.grammar.parse text = .ok f)
    (failed : b.update l f limit = (.error (.rejected r), next)) :
    b.enter row column text limit = (.ok (.rejected r.cause.message), next) := by
  unfold enter
  simp only [located, read, failed]

theorem enter_of_not_accepted (represents : b.Represents s)
    (other : (b.enter row column text limit).1 ≠ .ok .accepted) :
    (b.enter row column text limit).2 = b := by
  have same : b.edit (.enter row column text limit) = b.enter row column text limit := rfl
  rw [← same] at other ⊢
  rcases represents.edit_cases (.enter row column text limit) with ⟨l, f, -, -, -, written⟩ |
    ⟨outcome, -, -, kept⟩ | ⟨failed, -, kept⟩
  · rw [written] at other
    exact absurd rfl other
  · rw [kept]
  · rw [kept]

theorem enter_formula (represents : b.Represents s) (legible : s.Legible rows columns)
    (located : b.locate row column = .ok l) (read : b.grammar.parse text = .ok f) (limit : Nat) :
    (b.update l f limit = (.ok (), b.install l f) ∧
      b.enter row column text limit = (.ok .accepted, b.install l f)) ∨
    ∃ r, b.update l f limit = (.error (.rejected r), b) ∧ r.cause.IsTypeError ∧
      b.enter row column text limit = (.ok (.rejected r.cause.message), b) := by
  rcases represents.update_cases l f limit with ⟨-, -, written⟩ | ⟨e, failed, kept⟩
  · exact .inl ⟨written, enter_accepted located read written⟩
  · have inside : s.Contains l := by
      rw [represents.locate] at located
      exact Sheet.contains_of_locate located
    obtain ⟨r, rfl, typeError⟩ :=
      legible.rejected inside (Grammar.normal_of_read read).wellFormed failed
    exact .inr ⟨r, kept, typeError, enter_rejected located read kept⟩

theorem enter_error_iff (represents : b.Represents s) (legible : s.Legible rows columns)
    (located : b.locate row column = .ok l) {failure : Failure} :
    (b.enter row column text limit).1 = .error failure ↔
      ∃ tooLong, b.grammar.parse text = .error (.digits tooLong) ∧ failure = .digits tooLong := by
  cases read : b.grammar.parse text with
  | ok f =>
      rcases enter_formula represents legible located read limit with
        ⟨-, answer⟩ | ⟨r, -, -, answer⟩ <;> simp [answer]
  | error failed =>
      cases failed with
      | unrecognised part => simp [enter_unrecognised located read]
      | digits tooLong => simp [enter_digits located read, eq_comm]

theorem enter_fails_iff (represents : b.Represents s) (legible : s.Legible rows columns)
    (located : b.locate row column = .ok l) {failure : Failure} :
    (b.enter row column text limit).1 = .error failure ↔ ∃ before digits after,
      pieces text.toList = before ++ digits :: after ∧ (∀ p ∈ before, Readable p) ∧
      isDigits digits = true ∧ maxDigits < digits.length ∧
      failure = .digits (.reading digits.length) := by
  rw [enter_error_iff represents legible located, represents.grammar, legible.grammar]
  simp only [stock_parse_digits_iff]
  constructor
  · rintro ⟨_, ⟨before, digits, after, split, readable, row, long, rfl⟩, rfl⟩
    exact ⟨before, digits, after, split, readable, row, long, rfl⟩
  · rintro ⟨before, digits, after, split, readable, row, long, rfl⟩
    exact ⟨_, ⟨before, digits, after, split, readable, row, long, rfl⟩, rfl⟩

theorem enter_of_short (represents : b.Represents s) (legible : s.Legible rows columns)
    (located : b.locate row column = .ok l) (short : text.length ≤ maxDigits) :
    ∃ outcome, (b.enter row column text limit).1 = .ok outcome := by
  cases answer : (b.enter row column text limit).1 with
  | ok outcome => exact ⟨outcome, rfl⟩
  | error failure =>
      obtain ⟨before, digits, after, split, -, -, long, -⟩ :=
        (enter_fails_iff represents legible located).mp answer
      have member : digits ∈ pieces text.toList := by
        rw [split]
        exact List.mem_append_right before List.mem_cons_self
      exact absurd (Nat.le_trans (short_of_mem_pieces member) short) (Nat.not_le_of_lt long)

/-- A text entered into a cell is answered, unless its first bad piece is an integer that is too long.
Unless the entry is accepted the ledger stays as it is. -/
theorem entry_is_answered {builtins : Table String Formula}
    (created : Sheet.create .stock builtins .empty rows columns = .ok s)
    (formed : Bindings.WellFormed builtins.get?) :
    ∃ start, create .stock builtins .empty rows columns = .ok start ∧
      ∀ (entries : List Entry) (row column : Int) (text : String) (limit : Nat),
        0 ≤ row ∧ row < rows → 0 ≤ column ∧ column < columns →
        let b := start.run (entries.map Entry.call)
        ∃ l, b.locate row column = .ok l ∧
          (∀ part, Grammar.stock.parse text = .error (.unrecognised part) →
            b.enter row column text limit = (.ok (.unparsable text), b)) ∧
          (∀ f, Grammar.stock.parse text = .ok f →
            (b.update l f limit = (.ok (), b.install l f) ∧
              b.enter row column text limit = (.ok .accepted, b.install l f)) ∨
            ∃ r, b.update l f limit = (.error (.rejected r), b) ∧ r.cause.IsTypeError ∧
              b.enter row column text limit = (.ok (.rejected r.cause.message), b)) ∧
          (∀ failure, (b.enter row column text limit).1 = .error failure ↔ ∃ before digits after,
            pieces text.toList = before ++ digits :: after ∧ (∀ p ∈ before, Readable p) ∧
            isDigits digits = true ∧ maxDigits < digits.length ∧
            failure = .digits (.reading digits.length)) ∧
          (text.length ≤ maxDigits → ∃ outcome, (b.enter row column text limit).1 = .ok outcome) ∧
          ((b.enter row column text limit).1 ≠ .ok .accepted →
            (b.enter row column text limit).2 = b) := by
  obtain ⟨start, started, fresh⟩ := represents_of_create created
  refine ⟨start, started, fun entries row column text limit inRows inColumns => ?_⟩
  intro b
  have represents : b.Represents (s.perform (entries.map Entry.call)) := (fresh.run _).2
  have legible := (Sheet.legible_of_create created formed).perform entries
  have grammar : b.grammar = .stock := by
    rw [represents.grammar, legible.grammar]
  obtain ⟨l, located⟩ := legible.locate inRows inColumns
  rw [← represents.locate] at located
  refine ⟨l, located, ?_, ?_, fun failure => enter_fails_iff represents legible located,
    enter_of_short represents legible located, enter_of_not_accepted represents⟩
  · rw [← grammar]
    exact fun part => enter_unrecognised located
  · rw [← grammar]
    exact fun f read => enter_formula represents legible located read limit

theorem entry_is_answered_zero : ∃ start : Ledger,
    create .stock (.ofList [("eight", .constant 8)]) .empty 1 2 = .ok start ∧
    let b := start.run (([⟨0, 0, "4", callLimit⟩, ⟨0, 1, "eight / A0", callLimit⟩,
      ⟨0, 0, "4 4", callLimit⟩] : List Entry).map Entry.call)
    b.formulas.entries = [(⟨0, 0⟩, .constant 4),
      (⟨0, 1⟩, .operator .divide [.reference "eight", .reference "A0"])] ∧
    ∃ l r, b.locate 0 0 = .ok l ∧ b.update l (.constant 0) callLimit = (.error (.rejected r), b) ∧
      r.cause.IsTypeError ∧ b.enter 0 0 "0" callLimit = (.ok (.rejected r.cause.message), b) := by
  obtain ⟨s, created⟩ : ∃ s : Sheet,
      Sheet.create .stock (.ofList [("eight", .constant 8)]) .empty 1 2 = .ok s := ⟨_, rfl⟩
  have formed : Bindings.WellFormed (Table.ofList [("eight", Formula.constant 8)]).get? :=
    Table.wellFormed_get? (by decide +kernel)
  obtain ⟨start, started, answered⟩ := entry_is_answered created formed
  obtain ⟨again, started', stored, refused⟩ : ∃ start : Ledger,
      create .stock (.ofList [("eight", .constant 8)]) .empty 1 2 = .ok start ∧
      let b := start.run (([⟨0, 0, "4", callLimit⟩, ⟨0, 1, "eight / A0", callLimit⟩,
        ⟨0, 0, "4 4", callLimit⟩] : List Entry).map Entry.call)
      b.formulas.entries = [(⟨0, 0⟩, .constant 4),
        (⟨0, 1⟩, .operator .divide [.reference "eight", .reference "A0"])] ∧
      (b.enter 0 0 "0").1 ≠ .ok .accepted :=
    ⟨_, rfl, by decide +kernel⟩
  cases Except.ok.inj (started.symm.trans started')
  obtain ⟨l, located, -, parsed, -⟩ := answered
    [⟨0, 0, "4", callLimit⟩, ⟨0, 1, "eight / A0", callLimit⟩, ⟨0, 0, "4 4", callLimit⟩]
    0 0 "0" callLimit (by decide) (by decide)
  refine ⟨start, started, stored, ?_⟩
  rcases parsed (.constant 0) rfl with ⟨-, accepted⟩ | ⟨r, updated, typeError, answer⟩
  · exact absurd (congrArg Prod.fst accepted) refused
  · exact ⟨l, r, located, updated, typeError, answer⟩

theorem entry_of_long_integer_fails : ∃ start : Ledger,
    create .stock .empty .empty 1 1 = .ok start ∧
    start.enter 0 0 (String.ofList (List.replicate (maxDigits + 1) '1')) =
      (.error (.digits (.reading (maxDigits + 1))), start) := by
  obtain ⟨start, started, grammar, located⟩ : ∃ start : Ledger,
      create .stock .empty .empty 1 1 = .ok start ∧ start.grammar = .stock ∧
      start.locate 0 0 = .ok ⟨0, 0⟩ :=
    ⟨_, rfl, rfl, rfl⟩
  have row : isDigits (List.replicate (maxDigits + 1) '1') = true := by
    rw [isDigits_iff]
    refine ⟨List.replicate_succ_ne_nil, fun c member => ?_⟩
    rw [List.eq_of_mem_replicate member]
    rfl
  have long := stock_parse_of_isDigits row (by rw [List.length_replicate]; exact Nat.lt_succ_self _)
  rw [List.length_replicate] at long
  rw [← grammar] at long
  exact ⟨start, started, enter_digits located long⟩

end Ledger

end FormulaGrid
