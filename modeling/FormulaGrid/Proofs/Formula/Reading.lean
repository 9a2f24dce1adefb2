import FormulaGrid.Formula.Grammar
import FormulaGrid.Formula.Normal
import FormulaGrid.Proofs.Outcomes
import FormulaGrid.Proofs.Text.Parts

/-!
# How a text is read

Reading never comes to the end of its depth, so it solves the equation of its own step (`read_eq`).
What a step does is said once and for all by `read_cases`.
-/

namespace FormulaGrid
open Text

namespace Op

theorem priority_inj {a b : Op} : a.priority = b.priority ↔ a = b := by
  cases a <;> cases b <;> decide

theorem mem_of_priority_lt {before after : List Op} {op looser : Op}
    (split : all = before ++ op :: after) (lt : looser.priority < op.priority) :
    looser ∈ before := by
  by_contra absent
  unfold priority at lt
  rw [split, List.idxOf_append_of_notMem absent, List.idxOf_append] at lt
  split at lt
  · have first := List.idxOf_lt_length_of_mem ‹op ∈ before›
    omega
  · rw [List.idxOf_cons_self] at lt
    omega

/-! ## Operators in a text -/

def present (text : List Char) : List Op :=
  all.filter fun op => op.symbol ∈ text

theorem mem_present {text : List Char} {op : Op} : op ∈ present text ↔ op.symbol ∈ text := by
  simp [present, mem_all]

variable {op : Op} {text part : List Char}

theorem mem_of_mem_parts (member : part ∈ op.parts text) {c : Char} (within : c ∈ part) :
    c ∈ text :=
  (mem_of_mem_trimmedParts member within).1

theorem symbol_not_mem_of_mem_parts (member : part ∈ op.parts text) : op.symbol ∉ part := by
  intro within
  have away := (mem_of_mem_trimmedParts member within).2
  simp at away

theorem length_present_lt (here : op.symbol ∈ text) (member : part ∈ op.parts text) :
    (present part).length < (present text).length := by
  have fewer : present part = (present text).filter fun op => op.symbol ∈ part := by
    simp only [present, List.filter_filter]
    refine List.filter_congr fun other _ => ?_
    by_cases within : other.symbol ∈ part
    · simp [within, mem_of_mem_parts member within]
    · simp [within]
  rw [fewer, List.length_filter_lt_length_iff_exists]
  exact ⟨op, mem_present.mpr here, by simpa using symbol_not_mem_of_mem_parts member⟩

end Op

namespace Grammar
variable {g : Grammar} {text : List Char}

/-! ## One step -/

def attempt (g : Grammar) (read : List Char → Except ParseError Formula) (text : List Char)
    (op : Op) : Except ParseError (Option Formula) :=
  if op.symbol ∈ text then ((op.parts text).mapM read).map (g.node? op) else .ok none

def readStep (g : Grammar) (read : List Char → Except ParseError Formula) (text : List Char) :
    Except ParseError Formula :=
  match readLiteral? (trim text) with
  | some result => result
  | none => do
    match ← Op.all.findSomeM? (g.attempt read text) with
    | some f => .ok f
    | none => readName (trim text)

def readWithin (g : Grammar) (depth : Nat) (text : List Char) : Except ParseError Formula :=
  readAt (fun op operands => .ok (g.node? op operands)) depth text

theorem liftExcept_eq {α ε : Type} (x : Except ε α) : (liftExcept x : Except ε α) = x := by
  cases x <;> rfl

theorem readWithin_zero (text : List Char) :
    g.readWithin 0 text = (readLiteral? (trim text)).getD (readName (trim text)) :=
  liftExcept_eq _

theorem readWithin_trim (depth : Nat) (text : List Char) :
    g.readWithin depth (trim text) = g.readWithin depth text := by
  unfold readWithin
  cases depth <;> simp [readAt]

theorem readWithin_succ (depth : Nat) (text : List Char) :
    g.readWithin (depth + 1) text = g.readStep (g.readWithin depth) text := by
  have attempts : (fun op : Op => if op.symbol ∈ trim text then do
        let operands ← ((trim text).splitOn op.symbol).mapM (g.readWithin depth)
        .ok (g.node? op operands)
      else pure none) = g.attempt (g.readWithin depth) text := by
    funext op
    have parts : ((trim text).splitOn op.symbol).mapM (g.readWithin depth) =
        (op.parts text).mapM (g.readWithin depth) := by
      rw [Op.parts, ← trimmedParts_trim op.visible_cuts text, ← Op.parts, Op.parts_eq,
        List.mapM_map]
      exact mapM_congr fun part _ => (readWithin_trim depth part).symm
    simp only [attempt, mem_trim_iff op.isBlank_symbol, parts]
    rfl
  unfold readWithin at attempts ⊢
  simp only [readAt, readStep, liftExcept_eq, attempts]
  rfl

theorem readStep_congr {read other : List Char → Except ParseError Formula}
    (same : ∀ op : Op, op.symbol ∈ text → ∀ part ∈ op.parts text, read part = other part) :
    g.readStep read text = g.readStep other text := by
  have attempts : g.attempt read text = g.attempt other text := by
    funext op
    unfold attempt
    split
    · rw [mapM_congr (same op ‹_›)]
    · rfl
  unfold readStep
  rw [attempts]

/-! ## Enough depth -/

theorem readStep_of_no_sign (quiet : Op.present text = [])
    (read : List Char → Except ParseError Formula) :
    g.readStep read text = (readLiteral? (trim text)).getD (readName (trim text)) := by
  have absent (op : Op) : op.symbol ∉ text := fun here => by
    have member := Op.mem_present.mpr here
    rw [quiet] at member
    cases member
  have passed : g.attempt read text = fun _ => pure none := by
    funext op
    exact if_neg (absent op)
  unfold readStep
  rw [passed, List.findSomeM?_pure]
  cases readLiteral? (trim text) with
  | some result => rfl
  | none => rfl

theorem readWithin_eq {depth deep : Nat} (enough : (Op.present text).length ≤ depth)
    (also : (Op.present text).length ≤ deep) :
    g.readWithin depth text = g.readWithin deep text := by
  induction depth generalizing deep text with
  | zero =>
      have quiet : Op.present text = [] := List.length_eq_zero_iff.mp (Nat.le_zero.mp enough)
      cases deep with
      | zero => rfl
      | succ deep => rw [readWithin_zero, readWithin_succ, readStep_of_no_sign quiet]
  | succ depth ih =>
      cases deep with
      | zero =>
          have quiet : Op.present text = [] := List.length_eq_zero_iff.mp (Nat.le_zero.mp also)
          rw [readWithin_zero, readWithin_succ, readStep_of_no_sign quiet]
      | succ deep =>
          rw [readWithin_succ, readWithin_succ]
          apply readStep_congr
          intro op here part member
          have fewer := Op.length_present_lt here member
          exact ih (by omega) (by omega)

theorem read_eq (g : Grammar) (text : List Char) : g.read text = g.readStep g.read text := by
  have within (text : List Char) : (Op.present text).length ≤ Op.all.length :=
    List.length_filter_le _ _
  have deeper : g.readWithin Op.all.length text = g.readWithin (Op.all.length + 1) text :=
    readWithin_eq (within text) (Nat.le_succ_of_le (within text))
  rw [readWithin_succ] at deeper
  exact deeper

@[simp] theorem read_trim (g : Grammar) (text : List Char) : g.read (trim text) = g.read text :=
  readWithin_trim _ text

/-! ## What reading does -/

/-- A grammar cannot build an operator over a text, though every part can be read. -/
def PassesOver (g : Grammar) (text : List Char) (op : Op) : Prop :=
  op.symbol ∈ text → op ∈ g.refused ∧ ∀ part ∈ op.parts text, ∃ f, g.read part = .ok f

/-- An operator decides what a text is read as. -/
structure Takes (g : Grammar) (text : List Char) (op : Op) : Prop where
  here : ¬g.PassesOver text op
  first : ∀ looser, looser.priority < op.priority → g.PassesOver text looser

theorem attempt_of_mem {op : Op} (here : op.symbol ∈ text) :
    g.attempt g.read text op = ((op.parts text).mapM g.read).map (g.node? op) :=
  if_pos here

theorem attempt_eq_none_iff {op : Op} :
    g.attempt g.read text op = .ok none ↔ g.PassesOver text op := by
  by_cases here : op.symbol ∈ text
  · rw [attempt_of_mem here, map_eq_ok]
    simp only [PassesOver, here, true_imp_iff]
    constructor
    · rintro ⟨operands, read, none⟩
      have refused : op ∈ g.refused := by simpa [node?] using none
      exact ⟨refused, exists_ok_of_mapM read⟩
    · rintro ⟨refused, each⟩
      obtain ⟨operands, read⟩ := exists_mapM_eq_ok each
      exact ⟨operands, read, if_pos refused⟩
  · exact iff_of_true (if_neg here) (absurd · here)

theorem passesOver_of_not_mem {op : Op} (absent : op.symbol ∉ text) : g.PassesOver text op :=
  fun here => absurd here absent

theorem Takes.mem {op : Op} (takes : g.Takes text op) : op.symbol ∈ text := by
  by_contra absent
  exact takes.here (passesOver_of_not_mem absent)

theorem Takes.eq {op other : Op} (takes : g.Takes text op) (also : g.Takes text other) :
    op = other := by
  rcases Nat.lt_trichotomy op.priority other.priority with lt | same | gt
  · exact absurd (also.first op lt) takes.here
  · exact Op.priority_inj.mp same
  · exact absurd (takes.first other gt) also.here

theorem read_cases (g : Grammar) (text : List Char) :
    readLiteral? (trim text) = some (g.read text) ∨
    (readLiteral? (trim text) = none ∧ (∀ op, g.PassesOver text op) ∧
      g.read text = readName (trim text)) ∨
    (readLiteral? (trim text) = none ∧ ∃ op, g.Takes text op ∧
      g.read text = ((op.parts text).mapM g.read).map (.operator op)) := by
  rw [read_eq, readStep]
  cases readLiteral? (trim text) with
  | some result => exact .inl rfl
  | none =>
      rcases findSomeM?_cases (g.attempt g.read text) Op.all with
        ⟨all, result⟩ | ⟨before, op, after, split, earlier, found, result⟩
      · refine .inr (.inl ⟨rfl, fun op => attempt_eq_none_iff.mp (all op op.mem_all), ?_⟩)
        rw [result]
        rfl
      · have takes : g.Takes text op := by
          refine ⟨fun passes => found (attempt_eq_none_iff.mpr passes), fun looser lt => ?_⟩
          exact attempt_eq_none_iff.mp (earlier looser (Op.mem_of_priority_lt split lt))
        refine .inr (.inr ⟨rfl, op, takes, ?_⟩)
        rw [result, attempt_of_mem takes.mem]
        rw [attempt_of_mem takes.mem] at found
        cases read : (op.parts text).mapM g.read with
        | error e => rfl
        | ok operands =>
            by_cases refused : op ∈ g.refused
            · rw [read] at found
              exact absurd (congrArg Except.ok (if_pos refused)) found
            · show (match g.node? op operands with
                | some f => Except.ok f
                | none => readName (trim text)) = _
              rw [node?, if_neg refused]
              rfl

theorem read_of_literal {result : Except ParseError Formula}
    (literal : readLiteral? (trim text) = some result) : g.read text = result := by
  rw [read_eq, readStep, literal]

theorem read_of_passesOver (noLiteral : readLiteral? (trim text) = none)
    (passed : ∀ op, g.PassesOver text op) : g.read text = readName (trim text) := by
  rcases g.read_cases text with literal | ⟨-, -, result⟩ | ⟨-, op, takes, -⟩
  · rw [noLiteral] at literal
    cases literal
  · exact result
  · exact absurd (passed op) takes.here

theorem read_of_takes (noLiteral : readLiteral? (trim text) = none) {op : Op}
    (takes : g.Takes text op) :
    g.read text = ((op.parts text).mapM g.read).map (.operator op) := by
  rcases g.read_cases text with literal | ⟨-, passed, -⟩ | ⟨-, other, also, result⟩
  · rw [noLiteral] at literal
    cases literal
  · exact absurd (passed op) takes.here
  · rwa [takes.eq also]

end Grammar

end FormulaGrid
