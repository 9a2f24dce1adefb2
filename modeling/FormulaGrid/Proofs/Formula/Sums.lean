import FormulaGrid.Formula.Sums
import FormulaGrid.Proofs.Evaluation.Limits
import FormulaGrid.Proofs.Evaluation.Solutions
import FormulaGrid.Proofs.Formula.WrittenForms

/-!
# Sums are read as ordinary arithmetic

A sum is cut at its plus signs into groups, and each group at its minus signs into terms. That comes
to the total from left to right, because a minus sign belongs to the one term behind it
(`sum_differences`).
-/

namespace FormulaGrid
open Filter Text

variable {bindings : Bindings} {op : Op} {n : Int}

/-! ## Texts between the signs of an operator -/

def StandsFor (bindings : Bindings) (text : List Char) (n : Int) : Prop :=
  ∃ f, Grammar.stock.read text = .ok f ∧ f.HasValue bindings (.number n)

theorem StandsFor.trimStart_ne_nil {text : List Char} (h : StandsFor bindings text n) :
    trimStart text ≠ [] := by
  intro blank
  obtain ⟨f, read, value⟩ := h
  have literal : readLiteral? (trim text) = some (.ok .empty) := by
    rw [trim, blank]
    rfl
  rw [Grammar.read_of_literal literal] at read
  cases read
  obtain ⟨limit, done⟩ := value.exists_plain
  cases limit <;> cases done

theorem readLiteral?_behind {before after : List Char} (some : trimStart before ≠ []) :
    readLiteral? (trim (before ++ op.symbol :: after)) = none := by
  rw [trim_append_cons op.isBlank_symbol, readLiteral?_of_ne_nil (by simp), Option.map_eq_none_iff,
    Option.eq_none_iff_forall_not_mem]
  intro result read
  exact some (isDigits_of_readInteger? read op.isDigit_symbol).1

theorem parts_intercalate {texts : List (List Char)} (some : texts ≠ [])
    (away : ∀ text ∈ texts, op.symbol ∉ text) :
    op.parts ([op.symbol].intercalate texts) = texts.map trim := by
  rw [Op.parts_eq, List.splitOn_intercalate op.symbol away some]

theorem takes_of_mem {text : List Char} (here : op.symbol ∈ text)
    (looser : ∀ other : Op, other.priority < op.priority → other.symbol ∉ text) :
    Grammar.stock.Takes text op where
  here passes := by
    have refused := (passes here).1
    cases refused
  first other lt := Grammar.passesOver_of_not_mem (looser other lt)

theorem read_intercalate {first next : List Char} {texts : List (List Char)}
    (begins : trimStart first ≠ [])
    (tight : ∀ text ∈ first :: next :: texts, ∀ other : Op, other.priority ≤ op.priority →
      other.symbol ∉ text) :
    Grammar.stock.read ([op.symbol].intercalate (first :: next :: texts)) =
      ((first :: next :: texts).mapM Grammar.stock.read).map (.operator op) := by
  have takes : Grammar.stock.Takes ([op.symbol].intercalate (first :: next :: texts)) op := by
    apply takes_of_mem
    · rw [List.intercalate_cons_cons]
      simp
    · intro other lt member
      rcases mem_intercalate member with between | ⟨text, among, within⟩
      · have same := Op.symbol_inj.mp (List.mem_singleton.mp between)
        subst same
        exact Nat.lt_irrefl _ lt
      · exact tight text among other (Nat.le_of_lt lt) within
  have noLiteral :
      readLiteral? (trim ([op.symbol].intercalate (first :: next :: texts))) = none := by
    rw [List.intercalate_cons_cons, List.append_assoc, List.singleton_append]
    exact readLiteral?_behind begins
  rw [Grammar.read_of_takes noLiteral takes, parts_intercalate (by simp)
    fun text among => tight text among op (Nat.le_refl _), List.mapM_map]
  simp only [Function.comp_def, Grammar.read_trim]

section
variable {α : Type} {parts : List α} {text : α → List Char} {number : α → Int}

theorem StandsFor.exists_operands
    (each : ∀ part ∈ parts, StandsFor bindings (text part) (number part)) :
    ∃ operands, (parts.map text).mapM Grammar.stock.read = .ok operands ∧
      List.Forall₂ (fun f n => f.HasValue bindings (.number n)) operands (parts.map number) := by
  induction parts with
  | nil => exact ⟨[], rfl, .nil⟩
  | cons part parts ih =>
      obtain ⟨⟨f, read, value⟩, others⟩ := List.forall_mem_cons.mp each
      obtain ⟨operands, rest, values⟩ := ih others
      refine ⟨f :: operands, ?_, .cons value values⟩
      rw [List.map_cons, List.mapM_cons, read, rest]
      rfl

theorem StandsFor.intercalate (some : parts ≠ [])
    (each : ∀ part ∈ parts, StandsFor bindings (text part) (number part))
    (tight : ∀ part ∈ parts, ∀ other : Op, other.priority ≤ op.priority →
      other.symbol ∉ text part)
    (alone : ∀ n, op.apply [n] = .ok n) (applied : op.apply (parts.map number) = .ok n) :
    StandsFor bindings ([op.symbol].intercalate (parts.map text)) n := by
  match parts, some with
  | [part], _ =>
      rw [List.map_singleton, alone] at applied
      cases applied
      rw [List.map_singleton, List.intercalate_singleton]
      exact each part (List.mem_singleton_self part)
  | first :: next :: parts, _ =>
      obtain ⟨operands, read, values⟩ := StandsFor.exists_operands each
      refine ⟨.operator op operands, ?_, hasValue_operator values applied⟩
      have begins := (each first List.mem_cons_self).trimStart_ne_nil
      rw [List.map_cons, List.map_cons] at read ⊢
      rw [read_intercalate begins (by simpa using tight), read]
      rfl

end

/-! ## Groups of terms -/

section
variable {α : Type}

def groups : α → List (Sign × α) → List (List α)
  | first, [] => [[first]]
  | first, (.plus, next) :: rest => [first] :: groups next rest
  | first, (.minus, next) :: rest => (groups next rest).modifyHead (first :: ·)

theorem exists_groups_eq (first : α) (rest : List (Sign × α)) :
    ∃ group others, groups first rest = (first :: group) :: others := by
  induction rest generalizing first with
  | nil => exact ⟨[], [], rfl⟩
  | cons next rest ih =>
      obtain ⟨sign, next⟩ := next
      obtain ⟨group, others, split⟩ := ih next
      cases sign with
      | plus => exact ⟨[], groups next rest, rfl⟩
      | minus =>
          refine ⟨next :: group, others, ?_⟩
          rw [groups, split, List.modifyHead_cons]

theorem ne_nil_of_mem_groups {first : α} {rest : List (Sign × α)} {group : List α}
    (member : group ∈ groups first rest) : group ≠ [] := by
  induction rest generalizing first group with
  | nil =>
      cases List.mem_singleton.mp member
      exact List.cons_ne_nil first []
  | cons next rest ih =>
      obtain ⟨sign, next⟩ := next
      cases sign with
      | plus =>
          rcases List.mem_cons.mp member with rfl | later
          · exact List.cons_ne_nil first []
          · exact ih later
      | minus =>
          obtain ⟨head, others, split⟩ := exists_groups_eq next rest
          rw [groups, split, List.modifyHead_cons] at member
          rcases List.mem_cons.mp member with rfl | later
          · exact List.cons_ne_nil first _
          · have within : group ∈ groups next rest := by
              rw [split]
              exact List.mem_cons_of_mem _ later
            exact ih within

theorem flatten_groups (first : α) (rest : List (Sign × α)) :
    (groups first rest).flatten = first :: rest.map Prod.snd := by
  induction rest generalizing first with
  | nil => rfl
  | cons next rest ih =>
      obtain ⟨sign, next⟩ := next
      cases sign with
      | plus => simp [groups, ih]
      | minus =>
          obtain ⟨head, others, split⟩ := exists_groups_eq next rest
          have ih := ih next
          rw [split] at ih
          simpa [groups, split] using ih

/-! ## The text and the total of the groups -/

theorem intercalate_append_cons {separator before text : List Char} {texts : List (List Char)} :
    separator.intercalate ((before ++ text) :: texts) =
      before ++ separator.intercalate (text :: texts) := by
  cases texts with
  | nil => simp
  | cons next texts => simp [List.intercalate_cons_cons]

theorem intercalate_groups (text : α → List Char) (first : α) (rest : List (Sign × α)) :
    [Op.add.symbol].intercalate ((groups first rest).map fun group =>
      [Op.subtract.symbol].intercalate (group.map text)) =
    text first ++ rest.flatMap fun next => next.1.op.symbol :: text next.2 := by
  induction rest generalizing first with
  | nil => simp [groups]
  | cons next rest ih =>
      obtain ⟨sign, next⟩ := next
      obtain ⟨group, others, split⟩ := exists_groups_eq next rest
      have ih := ih next
      rw [split] at ih
      simp only [List.map_cons] at ih
      cases sign with
      | plus =>
          simp only [groups, split, List.map_cons, List.map_nil, List.intercalate_cons_cons,
            List.intercalate_singleton]
          rw [ih]
          simp [Sign.op]
      | minus =>
          simp only [groups, split, List.modifyHead_cons, List.map_cons,
            List.intercalate_cons_cons]
          rw [intercalate_append_cons, ih]
          simp [Sign.op]

def difference : List Int → Int
  | [] => 0
  | first :: rest => rest.foldl (· - ·) first

theorem apply_subtract {numbers : List Int} (some : numbers ≠ []) :
    Op.subtract.apply numbers = .ok (difference numbers) := by
  obtain ⟨first, rest, rfl⟩ := List.exists_cons_of_ne_nil some
  rfl

theorem foldl_add_left {f : Int → α → Int} (step : ∀ a b x, f (a + b) x = a + f b x)
    (xs : List α) (a b : Int) : xs.foldl f (a + b) = a + xs.foldl f b := by
  induction xs generalizing b with
  | nil => rfl
  | cons x xs ih => rw [List.foldl_cons, List.foldl_cons, step, ih]

theorem foldl_add_cons (n : Int) (numbers : List Int) :
    (n :: numbers).foldl (· + ·) 0 = n + numbers.foldl (· + ·) 0 := by
  rw [List.foldl_cons, Int.add_comm, foldl_add_left Int.add_assoc]

/-- A number that stood first is taken off instead, so it counts twice. -/
theorem difference_cons_cons (first next : Int) (numbers : List Int) :
    difference (first :: next :: numbers) = first - 2 * next + difference (next :: numbers) := by
  have twice : first - next = first - 2 * next + next := by omega
  show numbers.foldl (· - ·) (first - next) = _
  rw [twice, foldl_add_left fun a b n => Int.add_sub_assoc a b n]
  rfl

theorem Sign.take_add_left (sign : Sign) (a b n : Int) :
    sign.take (a + b) n = a + sign.take b n := by
  cases sign with
  | plus => exact Int.add_assoc a b n
  | minus => exact Int.add_sub_assoc a b n

theorem sum_differences (number : α → Int) (first : α) (rest : List (Sign × α)) :
    ((groups first rest).map fun group => difference (group.map number)).foldl (· + ·) 0 =
      rest.foldl (fun total next => next.1.take total (number next.2)) (number first) := by
  have shift := foldl_add_left (f := fun total (next : Sign × α) =>
    next.1.take total (number next.2)) fun a b next => next.1.take_add_left a b _
  induction rest generalizing first with
  | nil => simp [groups, difference]
  | cons next rest ih =>
      obtain ⟨sign, next⟩ := next
      obtain ⟨group, others, split⟩ := exists_groups_eq next rest
      have ih := ih next
      cases sign with
      | plus =>
          rw [groups, List.map_cons, foldl_add_cons, ih, List.foldl_cons, Sign.take, shift]
          rfl
      | minus =>
          have moved : number first - number next =
              number first - 2 * number next + number next := by omega
          rw [split, List.map_cons, foldl_add_cons, List.map_cons] at ih
          rw [groups, split, List.modifyHead_cons, List.map_cons, foldl_add_cons, List.map_cons,
            List.map_cons, difference_cons_cons, List.foldl_cons, Sign.take, moved, shift, ← ih,
            Int.add_assoc]

end

/-! ## Sums -/

structure Term.Holds (bindings : Bindings) (t : Term) : Prop where
  tight : ∀ c ∈ t.text.toList, c ∉ ['=', '<', '+', '-']
  number : ∃ f limit, Grammar.stock.parse t.text = .ok f ∧
    valueWithin bindings limit f = .ok (.number t.number)

theorem Term.Holds.standsFor {t : Term} (holds : t.Holds bindings) :
    StandsFor bindings t.text.toList t.number := by
  obtain ⟨f, limit, parsed, done⟩ := holds.number
  exact ⟨f, parsed, hasValue_of_ok done⟩

theorem Term.Holds.symbol_not_mem {t : Term} (holds : t.Holds bindings) {other : Op}
    (loose : other.priority ≤ Op.subtract.priority) : other.symbol ∉ t.text.toList := by
  intro member
  apply holds.tight _ member
  cases other with
  | multiply => exact absurd loose (by decide)
  | divide => exact absurd loose (by decide)
  | _ => decide

namespace SignedSum
variable {s : SignedSum}

theorem toList_foldl (start : String) (rest : List (Sign × Term)) :
    (rest.foldl (fun text next => text ++ next.1.op.text ++ next.2.text) start).toList =
      start.toList ++ rest.flatMap fun next => next.1.op.symbol :: next.2.text.toList := by
  induction rest generalizing start with
  | nil => simp
  | cons next rest ih =>
      rw [List.foldl_cons, ih, String.toList_append, String.toList_append, Op.text,
        String.toList_singleton]
      simp

theorem standsFor (terms : ∀ t ∈ s.terms, t.Holds bindings) :
    StandsFor bindings s.text.toList s.total := by
  have among : ∀ group ∈ groups s.first s.rest, ∀ t ∈ group, t.Holds bindings := by
    intro group member t within
    apply terms
    rw [SignedSum.terms, ← flatten_groups]
    exact List.mem_flatten_of_mem member within
  have group : ∀ group ∈ groups s.first s.rest,
      StandsFor bindings ([Op.subtract.symbol].intercalate (group.map fun t => t.text.toList))
        (difference (group.map Term.number)) := by
    intro group member
    have some := ne_nil_of_mem_groups member
    have holds := among group member
    apply StandsFor.intercalate some
    · exact fun t within => (holds t within).standsFor
    · exact fun t within other loose => (holds t within).symbol_not_mem loose
    · exact fun n => rfl
    · exact apply_subtract (by simpa using some)
  have tight : ∀ group ∈ groups s.first s.rest, ∀ other : Op, other.priority ≤ Op.add.priority →
      other.symbol ∉ [Op.subtract.symbol].intercalate (group.map fun t => t.text.toList) := by
    intro group member other loose here
    rcases mem_intercalate here with between | ⟨text, within, inside⟩
    · cases Op.symbol_inj.mp (List.mem_singleton.mp between)
      exact absurd loose (by decide)
    · obtain ⟨t, inGroup, rfl⟩ := List.mem_map.mp within
      exact (among group member t inGroup).symbol_not_mem (Nat.le_trans loose (by decide)) inside
  have nonempty : groups s.first s.rest ≠ [] := by
    obtain ⟨head, others, split⟩ := exists_groups_eq s.first s.rest
    simp [split]
  rw [text, toList_foldl, ← intercalate_groups fun t : Term => t.text.toList]
  apply StandsFor.intercalate nonempty group tight
  · intro n
    rw [Op.apply, List.foldl_cons, Int.zero_add]
    rfl
  · rw [Op.apply, sum_differences]
    rfl

end SignedSum

/-- A sum of terms that have numbers is read as a formula that has the total of these from left to
right. -/
theorem sum_left_to_right (s : SignedSum) (bindings : Bindings)
    (terms : ∀ t ∈ s.terms, t.Holds bindings) :
    ∃ f, Grammar.stock.parse s.text = .ok f ∧
      (∃ enough, ∀ limit, enough ≤ limit →
        valueWithin bindings limit f = .ok (.number s.total)) ∧
      ∀ limit, valueWithin bindings limit f = .error .tooDeep ∨
        valueWithin bindings limit f = .ok (.number s.total) := by
  obtain ⟨f, read, value⟩ := SignedSum.standsFor terms
  refine ⟨f, read, eventually_atTop.mp value, fun limit => ?_⟩
  obtain ⟨deep, done, le⟩ := (value.and (eventually_ge_atTop limit)).exists
  have cut := valueWithin_cutOff_deeper bindings le f
  rwa [done] at cut

theorem sum_left_to_right_two_groups : ∃ (s : SignedSum) (env : Table String Formula),
    s = ⟨⟨"2 * x ", 8⟩, [(.minus, ⟨" 3 ", 3⟩), (.plus, ⟨" y/2", 3⟩), (.minus, ⟨"x", 4⟩)]⟩ ∧
    env = .ofList [("x", .operator .subtract [.reference "y", .constant 3]), ("y", .constant 7)] ∧
    (∀ t ∈ s.terms, t.Holds env.get?) ∧ s.text = "2 * x - 3 + y/2-x" ∧ s.total = 8 - 3 + 3 - 4 ∧
    ∃ f enough, f = .operator .add [
        .operator .subtract [.operator .multiply [.constant 2, .reference "x"], .constant 3],
        .operator .subtract [.operator .divide [.reference "y", .constant 2], .reference "x"]] ∧
      Grammar.stock.parse s.text = .ok f ∧
      ∀ limit, enough ≤ limit → valueWithin env.get? limit f = .ok (.number 4) := by
  let s : SignedSum :=
    ⟨⟨"2 * x ", 8⟩, [(.minus, ⟨" 3 ", 3⟩), (.plus, ⟨" y/2", 3⟩), (.minus, ⟨"x", 4⟩)]⟩
  let env : Table String Formula :=
    .ofList [("x", .operator .subtract [.reference "y", .constant 3]), ("y", .constant 7)]
  have product : Term.Holds env.get? ⟨"2 * x ", 8⟩ :=
    ⟨by simp, .operator .multiply [.constant 2, .reference "x"], 5, rfl, by decide⟩
  have three : Term.Holds env.get? ⟨" 3 ", 3⟩ :=
    ⟨by simp, .constant 3, 1, rfl, by decide⟩
  have quotient : Term.Holds env.get? ⟨" y/2", 3⟩ :=
    ⟨by simp, .operator .divide [.reference "y", .constant 2], 3, rfl, by decide⟩
  have name : Term.Holds env.get? ⟨"x", 4⟩ :=
    ⟨by simp, .reference "x", 4, rfl, by decide⟩
  have terms : ∀ t ∈ s.terms, t.Holds env.get? := by
    simp [s, SignedSum.terms, product, three, quotient, name]
  obtain ⟨f, parsed, ⟨enough, value⟩, -⟩ := sum_left_to_right s env.get? terms
  have text : s.text = "2 * x - 3 + y/2-x" := rfl
  have read : Grammar.stock.parse "2 * x - 3 + y/2-x" = .ok (.operator .add [
      .operator .subtract [.operator .multiply [.constant 2, .reference "x"], .constant 3],
      .operator .subtract [.operator .divide [.reference "y", .constant 2], .reference "x"]]) :=
    rfl
  have same := parsed
  rw [text, read] at same
  exact ⟨s, env, rfl, rfl, terms, text, rfl, f, enough, (Except.ok.inj same).symm, parsed, value⟩

end FormulaGrid
