import FormulaGrid.Proofs.Evaluation.Follows

/-!
# Values solve the formulas

Bind every name that a formula reaches to its value instead of its formula, and the formula keeps its
value (`HasValue.over_values`).
-/

namespace FormulaGrid
open Filter

def Formula.HasValue (bindings : Bindings) (f : Formula) (value : Value) : Prop :=
  ∀ᶠ limit in atTop, valueWithin bindings limit f = .ok value

/-- Where a formula leads, bound names are bound to their values and unbound names to nothing. -/
structure Bindings.Solves (solved bindings : Bindings) (f : Formula) : Prop where
  bound : ∀ name, bindings.Reaches f name → (bindings name).isSome →
    ∃ value, (Formula.reference name).HasValue bindings value ∧ solved name = some value.formula
  unbound : ∀ name, bindings.Reaches f name → bindings name = none → solved name = none

section
variable {bindings solved : Bindings} {f g : Formula} {value : Value} {limit : Nat}

/-! ## Values and evaluation without a memo -/

theorem eventually_plain (done : plainReduce bindings limit [] f = .ok value) :
    ∀ᶠ deep in atTop, plainReduce bindings deep [] f = .ok value := by
  filter_upwards [eventually_ge_atTop limit] with deep le
  have deeper := plainReduce_cutOff bindings le [] f
  rw [done] at deeper
  exact deeper.eq_ok

theorem hasValue_of_plain (done : plainValueWithin bindings limit f = .ok value) :
    f.HasValue bindings value := by
  filter_upwards [eventually_plain done] with deep plain
  have cut : CutOff (plainReduce bindings deep [] f) (valueWithin bindings deep f) :=
    plainValueWithin_cutOff bindings deep f
  rw [plain] at cut
  exact cut.eq_ok

theorem hasValue_of_ok (done : valueWithin bindings limit f = .ok value) :
    f.HasValue bindings value := by
  obtain ⟨deep, plain⟩ := exists_plain_of_ok done
  exact hasValue_of_plain plain

theorem Formula.HasValue.exists_plain (h : f.HasValue bindings value) :
    ∃ limit, plainValueWithin bindings limit f = .ok value := by
  obtain ⟨limit, done⟩ := h.exists
  exact exists_plain_of_ok done

theorem Formula.HasValue.eventually_plain (h : f.HasValue bindings value) :
    ∀ᶠ deep in atTop, plainReduce bindings deep [] f = .ok value := by
  obtain ⟨limit, done⟩ := h.exists_plain
  exact FormulaGrid.eventually_plain done

theorem Formula.HasValue.unique {other : Value} (h : f.HasValue bindings value)
    (h' : f.HasValue bindings other) : value = other := by
  obtain ⟨limit, done, done'⟩ := (h.and h').exists
  rw [done] at done'
  exact Except.ok.inj done'

theorem Formula.HasValue.cutOff (h : f.HasValue bindings value) (limit : Nat) :
    CutOff (valueWithin bindings limit f) (.ok value) := by
  obtain ⟨deep, cut, plain⟩ := ((valueWithin_cutOff bindings limit f).and h.eventually_plain).exists
  have done : plainValueWithin bindings deep f = .ok value := plain
  rwa [done] at cut

/-! ## The number of an operator -/

theorem hasValue_operator {op : Op} {operands : List Formula} {numbers : List Int} {n : Int}
    (each : List.Forall₂ (fun f n => f.HasValue bindings (.number n)) operands numbers)
    (applied : op.apply numbers = .ok n) :
    (Formula.operator op operands).HasValue bindings (.number n) := by
  have settled : ∀ᶠ limit in atTop, List.Forall₂ (fun f n =>
      (plainReduce bindings limit [] f >>= fun value => value.operand op) = .ok n)
      operands numbers := by
    clear applied
    induction each with
    | nil => exact .of_forall fun _ => .nil
    | cons first _ ih =>
        filter_upwards [first.eventually_plain, ih] with limit done rest
        exact .cons (bind_eq_ok.mpr ⟨_, done, rfl⟩) rest
  obtain ⟨limit, each⟩ := settled.exists
  have plain : plainValueWithin bindings (limit + 1) (.operator op operands) = .ok (.number n) := by
    refine bind_eq_ok.mpr ⟨numbers, mapM_eq_ok_iff.mpr each, ?_⟩
    rw [combine, applied]
  exact hasValue_of_plain plain

theorem hasValue_operator_iff {op : Op} {operands : List Formula} :
    (Formula.operator op operands).HasValue bindings value ↔ ∃ numbers n,
      List.Forall₂ (fun f n => f.HasValue bindings (.number n)) operands numbers ∧
      op.apply numbers = .ok n ∧ value = .number n := by
  constructor
  · intro h
    obtain ⟨limit, done⟩ := h.exists_plain
    cases limit with
    | zero => cases done
    | succ limit =>
        obtain ⟨numbers, each, combined⟩ := bind_eq_ok.mp done
        unfold combine at combined
        split at combined
        · rename_i n applied
          cases combined
          refine ⟨numbers, n, (mapM_eq_ok_iff.mp each).imp fun f n single => ?_, applied, rfl⟩
          obtain ⟨value, below, read⟩ := bind_eq_ok.mp single
          cases value with
          | number m =>
              cases read
              exact hasValue_of_plain below
          | _ => cases read
        · cases combined
  · rintro ⟨numbers, n, each, applied, rfl⟩
    exact hasValue_operator each applied

/-! ## The names that a formula reaches -/

theorem plainReduce_leave {path : List String} (done : plainReduce bindings limit path f = .ok value) :
    plainReduce bindings limit [] f = .ok value := by
  rw [← done]
  apply plainReduce_congr_path
  intro name reached bound
  simp [not_mem_path_of_ok done reached bound]

theorem hasValue_reference_iff {name : String} (bound : bindings name = some g) :
    (Formula.reference name).HasValue bindings value ↔
      g.HasValue bindings value ∧ ¬bindings.Reaches g name := by
  constructor
  · intro h
    obtain ⟨limit, done⟩ := h.exists_plain
    cases limit with
    | zero => cases done
    | succ limit =>
        have below := ((plainReduce_reference_eq_ok bound).mp done).2
        refine ⟨hasValue_of_plain (plainReduce_leave below), fun again => ?_⟩
        exact not_mem_path_of_ok below again (by rw [bound]; rfl) List.mem_cons_self
  · rintro ⟨h, apart⟩
    obtain ⟨limit, done⟩ := h.exists_plain
    have read : plainValueWithin bindings (limit + 1) (.reference name) = .ok value := by
      refine (plainReduce_reference_eq_ok bound).mpr ⟨List.not_mem_nil, ?_⟩
      rw [← done]
      apply plainReduce_congr_path
      intro next reached _
      have other : next ≠ name := by
        rintro rfl
        exact apart reached
      simp [other]
    exact hasValue_of_plain read

theorem hasValue_of_reaches {name : String} (h : f.HasValue bindings value)
    (reached : bindings.Reaches f name) (bound : (bindings name).isSome) :
    ∃ inside, (Formula.reference name).HasValue bindings inside := by
  obtain ⟨limit, done⟩ := h.exists_plain
  obtain ⟨g, found⟩ := Option.isSome_iff_exists.mp bound
  obtain ⟨inner, above, inside, -, -, below⟩ := evaluated_of_reaches done reached found
  refine ⟨inside, (hasValue_reference_iff found).mpr ⟨?_, fun again => ?_⟩⟩
  · exact hasValue_of_plain (plainReduce_leave below)
  · exact not_mem_path_of_ok below again bound List.mem_cons_self

theorem unbound_of_ok {path : List String} {name : String}
    (done : plainReduce bindings limit path f = .ok (.unbound name)) :
    bindings.Reaches f name ∧ bindings name = none := by
  induction limit generalizing path f with
  | zero => cases done
  | succ limit ih =>
      cases f with
      | empty => cases done
      | constant n => cases done
      | reference via =>
          cases found : bindings via with
          | none =>
              rw [plainReduce, found] at done
              cases done
              exact ⟨.self name, found⟩
          | some g =>
              obtain ⟨reached, free⟩ := ih ((plainReduce_reference_eq_ok found).mp done).2
              exact ⟨.of_reference found reached, free⟩
      | operator op operands =>
          obtain ⟨numbers, -, combined⟩ := bind_eq_ok.mp done
          unfold combine at combined
          split at combined
          · cases combined
          · cases combined

/-! ## Evaluating over values -/

namespace Bindings.Solves

theorem of_operand {op : Op} {operands : List Formula}
    (solves : solved.Solves bindings (.operator op operands)) {operand : Formula}
    (member : operand ∈ operands) : solved.Solves bindings operand where
  bound name reached := solves.bound name (.of_operand member reached)
  unbound name reached := solves.unbound name (.of_operand member reached)

theorem plainReduce_value (solves : solved.Solves bindings f)
    (free : ∀ name, value = .unbound name → bindings.Reaches f name ∧ bindings name = none)
    (calls : Nat) (path : List String) :
    plainReduce solved (calls + 1) path value.formula = .ok value := by
  cases value with
  | empty => rfl
  | number n => rfl
  | unbound name =>
      obtain ⟨reached, free⟩ := free name rfl
      simp only [Value.formula, plainReduce, solves.unbound name reached free]
      rfl

theorem plainReduce {calls : Nat} (solves : solved.Solves bindings f) (enough : f.height < calls)
    (done : plainReduce bindings limit [] f = .ok value) :
    plainReduce solved calls [] f = .ok value := by
  induction limit generalizing f value calls with
  | zero => cases done
  | succ limit ih =>
      obtain ⟨calls, rfl⟩ := Nat.exists_eq_succ_of_ne_zero (Nat.ne_zero_of_lt enough)
      cases f with
      | empty => exact done
      | constant n => exact done
      | reference name =>
          have reached : bindings.Reaches (.reference name) name := .self name
          cases found : bindings name with
          | none =>
              rw [FormulaGrid.plainReduce, found] at done
              cases done
              rw [FormulaGrid.plainReduce, solves.unbound name reached found]
              rfl
          | some g =>
              obtain ⟨inside, settled, binding⟩ := solves.bound name reached (by rw [found]; rfl)
              obtain rfl := settled.unique (hasValue_of_plain done)
              refine (plainReduce_reference_eq_ok binding).mpr ⟨List.not_mem_nil, ?_⟩
              -- one call for the name leaves one for its value
              rw [Formula.height] at enough
              obtain ⟨calls, rfl⟩ := Nat.exists_eq_succ_of_ne_zero (by omega : calls ≠ 0)
              apply solves.plainReduce_value
              rintro other rfl
              exact unbound_of_ok done
      | operator op operands =>
          obtain ⟨numbers, each, combined⟩ := bind_eq_ok.mp done
          refine bind_eq_ok.mpr ⟨numbers, ?_, combined⟩
          apply mapM_eq_ok_imp each
          intro operand member number single
          obtain ⟨value, below, read⟩ := bind_eq_ok.mp single
          have lower : operand.height < (Formula.operator op operands).height :=
            Formula.height_lt_operator member
          exact bind_eq_ok.mpr ⟨value, ih (solves.of_operand member) (by omega) below, read⟩

end Bindings.Solves

end

theorem Formula.HasValue.over_values {bindings solved : Bindings} {f : Formula} {value : Value}
    (h : f.HasValue bindings value) (solves : solved.Solves bindings f) {calls : Nat}
    (enough : f.height < calls) : valueWithin solved calls f = .ok value := by
  obtain ⟨limit, done⟩ := h.exists_plain
  have plain : plainValueWithin solved calls f = .ok value := solves.plainReduce enough done
  have cut := plainValueWithin_cutOff solved calls f
  rw [plain] at cut
  exact cut.eq_ok

theorem Formula.HasValue.exists_solves {bindings : Bindings} {f : Formula} {value : Value}
    (h : f.HasValue bindings value) : ∃ solved : Bindings, solved.Solves bindings f := by
  have each : ∀ name, ∃ answer : Option Formula,
      (bindings.Reaches f name → (bindings name).isSome →
        ∃ value, (Formula.reference name).HasValue bindings value ∧ answer = some value.formula) ∧
      (bindings.Reaches f name → bindings name = none → answer = none) := by
    intro name
    cases found : bindings name with
    | none => exact ⟨none, nofun, fun _ _ => rfl⟩
    | some g =>
        by_cases reached : bindings.Reaches f name
        · obtain ⟨inside, settled⟩ := hasValue_of_reaches h reached (by rw [found]; rfl)
          exact ⟨some inside.formula, fun _ _ => ⟨inside, settled, rfl⟩, nofun⟩
        · exact ⟨none, fun there => absurd there reached, nofun⟩
  choose solved bound unbound using each
  exact ⟨solved, bound, unbound⟩

end FormulaGrid
