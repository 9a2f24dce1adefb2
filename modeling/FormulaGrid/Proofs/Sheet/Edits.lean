import FormulaGrid.Sheet.Edit

namespace FormulaGrid.Sheet
variable {s next : Sheet}

def target? (s : Sheet) : Edit → Option Location
  | .update l _ _ => some l
  | .clear l _ => some l
  | .enter row column _ _ => (s.locate row column).toOption

theorem contains_of_locate {row column : Int} {l : Location}
    (located : s.locate row column = .ok l) : s.Contains l := by
  unfold locate at located
  split at located
  · rename_i inside
    obtain ⟨row_nonneg, row_lt, column_nonneg, column_lt⟩ := inside
    cases located
    constructor
    · show row.toNat < s.grid.rows
      omega
    · show column.toNat < s.grid.columns
      omega
  · cases located

theorem enter_of_locate {row column : Int} {l : Location} (located : s.locate row column = .ok l)
    (text : String) (limit : Nat) :
    s.enter row column text limit = match s.grammar.parse text with
      | .error (.unrecognised _) => .ok (.unparsable text, s)
      | .error (.digits e) => .error (.digits e)
      | .ok f => match s.update l f limit with
        | .ok next => .ok (.accepted, next)
        | .error (.rejected r) => .ok (.rejected r.cause.message, s)
        | .error e => .error e := by
  unfold enter
  rw [located]
  rfl

theorem enter_of_not_locate {row column : Int} {e : OutOfRange}
    (outside : s.locate row column = .error e) (text : String) (limit : Nat) :
    s.enter row column text limit = .error (.outOfRange e) := by
  unfold enter
  rw [outside]
  rfl

/-- An edit that does not fail is taken, and then it is an update of its cell, or it changes
nothing. -/
theorem edit_ok {e : Edit} {outcome : Outcome} (done : s.edit e = .ok (outcome, next)) :
    (outcome = .accepted ∧ ∃ l f, s.target? e = some l ∧ s.update l f e.limit = .ok next) ∨
      (outcome ≠ .accepted ∧ next = s) := by
  have updated : ∀ {l f limit},
      (s.update l f limit).map (Outcome.accepted, ·) = .ok (outcome, next) →
        outcome = .accepted ∧ s.update l f limit = .ok next := by
    intro l f limit done
    cases result : s.update l f limit with
    | error e =>
        rw [result] at done
        cases done
    | ok after =>
        rw [result] at done
        cases done
        exact ⟨rfl, rfl⟩
  cases e with
  | update l f limit =>
      obtain ⟨accepted, done⟩ := updated done
      exact .inl ⟨accepted, l, f, rfl, done⟩
  | clear l limit =>
      obtain ⟨accepted, done⟩ := updated done
      exact .inl ⟨accepted, l, s.grid.background, rfl, done⟩
  | enter row column text limit =>
      rw [edit] at done
      cases located : s.locate row column with
      | error e =>
          rw [enter_of_not_locate located] at done
          cases done
      | ok l =>
          have target : s.target? (.enter row column text limit) = some l := by
            rw [target?, located]
            rfl
          rw [enter_of_locate located] at done
          split at done
          · cases done
            exact .inr ⟨by simp, rfl⟩
          · cases done
          · rename_i f _
            split at done
            · rename_i taken
              cases done
              exact .inl ⟨rfl, l, f, target, taken⟩
            · cases done
              exact .inr ⟨by simp, rfl⟩
            · cases done

theorem after_cases (s : Sheet) (e : Edit) :
    s.after e = s ∨ ∃ l f, s.target? e = some l ∧ s.update l f e.limit = .ok (s.after e) := by
  unfold after
  cases done : s.edit e with
  | error e => exact .inl rfl
  | ok result =>
      obtain ⟨outcome, next⟩ := result
      rcases edit_ok done with ⟨-, updated⟩ | ⟨-, same⟩
      · exact .inr updated
      · exact .inl same

theorem run_induction (Good : Sheet → Prop)
    (step : ∀ s l f limit next, Good s → s.update l f limit = .ok next → Good next)
    (start : Good s) (edits : List Edit) : Good (s.run edits) := by
  induction edits generalizing s with
  | nil => exact start
  | cons e edits ih =>
      apply ih
      rcases s.after_cases e with same | ⟨l, f, -, updated⟩
      · rwa [same]
      · exact step s l f e.limit _ start updated

end FormulaGrid.Sheet
