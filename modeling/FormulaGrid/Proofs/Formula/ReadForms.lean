import FormulaGrid.Proofs.Formula.Blame

namespace FormulaGrid
open Text

variable {g : Grammar} {text : List Char} {f : Formula}

theorem Op.keepsSign_iff {op : Op} : op.keepsSign = true ↔ op.priority < Op.subtract.priority := by
  cases op <;> decide

theorem Op.priority_lt_of_le {op other : Op} (le : op.priority ≤ other.priority)
    (ne : op ≠ other) : op.priority < other.priority := by
  have distinct : op.priority ≠ other.priority := fun same => ne (priority_inj.mp same)
  omega

theorem formula_of_readLiteral? (literal : readLiteral? text = some (.ok f)) :
    f = .empty ∨ ∃ n, f = .constant n ∧ readInteger? text = some (.ok n) := by
  by_cases nothing : text = []
  · subst nothing
    cases literal
    exact .inl rfl
  · rw [readLiteral?_of_ne_nil nothing, Option.map_eq_some_iff] at literal
    obtain ⟨integer, read, result⟩ := literal
    cases integer with
    | error limit => cases result
    | ok n =>
        cases result
        exact .inr ⟨n, rfl, read⟩

theorem normalUnder_of_readLiteral? {above : List Op}
    (signs : '-' ∈ text → ∀ op ∈ above, g.keepsSign op = true)
    (literal : readLiteral? (trim text) = some (.ok f)) : f.NormalUnder g above := by
  rcases formula_of_readLiteral? literal with rfl | ⟨n, rfl, read⟩
  · exact .empty
  · refine .constant (length_toDigits_of_readInteger? read) fun negative => signs ?_
    exact mem_of_mem_trim (minus_mem_of_readInteger? read negative)

theorem normalUnder_of_readName {above : List Op} (noLiteral : readLiteral? text = none)
    (read : readName text = .ok f) : f.NormalUnder g above := by
  unfold readName at read
  split at read
  · rename_i name
    cases read
    refine .reference (by simpa using name) ?_
    simp [isDigits_of_readLiteral?_eq_none noLiteral]
  · cases read

theorem Grammar.Takes.lt_of_mem_parts {op other : Op} (takes : g.Takes text op) {part : List Char}
    (member : part ∈ op.parts text) (built : other ∉ g.refused) (here : other.symbol ∈ part) :
    op.priority < other.priority := by
  have notLooser : ¬other.priority < op.priority := fun looser =>
    built (takes.first other looser (Op.mem_of_mem_parts member here)).1
  refine Op.priority_lt_of_le (Nat.le_of_not_lt notLooser) ?_
  rintro rfl
  exact Op.symbol_not_mem_of_mem_parts member here

theorem Grammar.Takes.keepsSign {op : Op} (takes : g.Takes text op) {part : List Char}
    (member : part ∈ op.parts text) (minus : '-' ∈ part) : g.keepsSign op = true := by
  by_cases built : .subtract ∈ g.refused
  · simp [Grammar.keepsSign, built]
  · have tighter : op.priority < Op.subtract.priority := takes.lt_of_mem_parts member built minus
    simp [Grammar.keepsSign, Op.keepsSign_iff.mpr tighter]

theorem normalUnder_of_read {above : List Op}
    (parents : ∀ parent ∈ above.head?, ∀ op ∉ g.refused, op.symbol ∈ text →
      parent.priority < op.priority)
    (signs : '-' ∈ text → ∀ op ∈ above, g.keepsSign op = true)
    (read : g.read text = .ok f) : f.NormalUnder g above := by
  induction size : (Op.present text).length using Nat.strong_induction_on
    generalizing text f above with
  | h size ih =>
      rcases g.read_cases text with literal | ⟨noLiteral, -, result⟩ | ⟨-, op, takes, result⟩
      · rw [read] at literal
        exact normalUnder_of_readLiteral? signs literal
      · rw [read] at result
        exact normalUnder_of_readName noLiteral result.symm
      · rw [read] at result
        obtain ⟨operands, all, rfl⟩ := map_eq_ok.mp result.symm
        have built : op ∉ g.refused := by
          intro refused
          exact takes.here fun _ => ⟨refused, exists_ok_of_mapM all⟩
        refine .operator built (fun parent nearest => parents parent nearest op built takes.mem)
          ?_ fun operand member => ?_
        · rw [← length_of_mapM all]
          exact two_le_length_trimmedParts takes.mem (by simp)
        · obtain ⟨part, within, readPart⟩ := exists_mem_of_mapM all operand member
          have fewer := Op.length_present_lt takes.mem within
          refine ih _ (size ▸ fewer) ?_ ?_ readPart rfl
          · rintro parent ⟨⟩ other built here
            exact takes.lt_of_mem_parts within built here
          · intro minus
            exact List.forall_mem_cons.mpr ⟨takes.keepsSign within minus,
              signs (Op.mem_of_mem_parts within minus)⟩

theorem Grammar.normal_of_read (read : g.read text = .ok f) : g.Normal f :=
  normalUnder_of_read nofun (fun _ => List.forall_mem_nil _) read

end FormulaGrid
