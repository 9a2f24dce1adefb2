import FormulaGrid.Evaluation.Checked
import FormulaGrid.Proofs.Evaluation.Failures
import FormulaGrid.Proofs.Formula.Built

/-!
# No check of an evaluation fails

The memo holds the formulas of values, so what is looked up or worked out is empty, an integer or a
name. That is why only the failures of the evaluation itself remain.
-/

namespace FormulaGrid
open Text

/-! ## Steps -/

theorem checkedCombine_eq (op : Op) (numbers : List Int) :
    checkedCombine op numbers = ((combine op numbers).map Value.formula).mapError .eval := by
  have applied : Op.applySymbol op.text numbers = (op.apply numbers).mapError .rule := by
    rw [Op.applySymbol, op.ofSymbol?_text]
  rw [checkedCombine, applied, combine]
  cases op.apply numbers with
  | error cause => rfl
  | ok n => rfl

theorem Value.operand_formula (op : Op) (value : Value) :
    value.formula.operand op = (value.operand op).mapError .eval := by
  cases value with
  | empty => rfl
  | number n => rfl
  | unbound name =>
      have text : (Formula.reference name).render = .ok name :=
        congrArg Except.ok String.ofList_toList
      unfold Value.formula Formula.operand
      simp only [text]
      rfl

/-! ## Computations side by side -/

def Memo.formulas (memo : Memo) : FormulaMemo :=
  memo.map fun entry => (entry.1, entry.2.formula)

theorem Memo.lookup_formulas (memo : Memo) (name : String) :
    memo.formulas.lookup name = (memo.lookup name).map Value.formula := by
  induction memo with
  | nil => rfl
  | cons entry memo ih =>
      rw [formulas, List.map_cons, lookup_entry_cons, lookup_entry_cons, ← formulas, ih]
      split <;> rfl

/-- With the formulas of any memo a computation does what another one does with the memo. -/
def Mirrors {α β : Type} (image : α → β) (x : StateT Memo (Except EvalError) α)
    (y : StateT FormulaMemo (Except Fault) β) : Prop :=
  ∀ memo, y memo.formulas = ((x memo).map fun r => (image r.1, r.2.formulas)).mapError .eval

def checkedLookUp (name : String) (y : StateT FormulaMemo (Except Fault) Formula) :
    StateT FormulaMemo (Except Fault) Formula := do
  match (← get).lookup name with
  | some result => pure result
  | none =>
    let result ← y
    modify ((name, result) :: ·)
    pure result

namespace Mirrors
variable {α β γ δ : Type} {image : α → β} {image' : γ → δ}
  {x : StateT Memo (Except EvalError) α} {y : StateT FormulaMemo (Except Fault) β}

theorem pure (a : α) : Mirrors image (pure a) (pure (image a)) := fun _ => rfl

theorem error (e : EvalError) : Mirrors image (throw e) (throw (.eval e)) := fun _ => rfl

theorem lift {a : Except EvalError α} {b : Except Fault β}
    (same : b = (a.map image).mapError .eval) : Mirrors image (liftM a) (liftM b) := by
  intro memo
  rw [same]
  cases a <;> rfl

theorem bind {k : α → StateT Memo (Except EvalError) γ}
    {k' : β → StateT FormulaMemo (Except Fault) δ} (first : Mirrors image x y)
    (next : ∀ a, Mirrors image' (k a) (k' (image a))) : Mirrors image' (x >>= k) (y >>= k') := by
  intro memo
  show (y memo.formulas >>= fun r => k' r.1 r.2) =
    ((x memo >>= fun r => k r.1 r.2).map fun r => (image' r.1, r.2.formulas)).mapError .eval
  rw [first memo]
  cases x memo with
  | error e => rfl
  | ok r => exact next r.1 r.2

theorem mapM {f : γ → StateT Memo (Except EvalError) α}
    {g : γ → StateT FormulaMemo (Except Fault) β} {xs : List γ}
    (each : ∀ x ∈ xs, Mirrors image (f x) (g x)) :
    Mirrors (List.map image) (xs.mapM f) (xs.mapM g) := by
  induction xs with
  | nil => exact pure []
  | cons x xs ih =>
      rw [List.mapM_cons, List.mapM_cons]
      refine (each x List.mem_cons_self).bind fun y => ?_
      exact (ih fun z member => each z (List.mem_cons_of_mem x member)).bind fun ys => pure _

theorem get : Mirrors Memo.formulas get get := fun _ => rfl

theorem note (name : String) (value : Value) :
    Mirrors id (modify ((name, value) :: ·)) (modify ((name, value.formula) :: ·)) := fun _ => rfl

theorem lookUp {name : String} {x : StateT Memo (Except EvalError) Value}
    {y : StateT FormulaMemo (Except Fault) Formula} (below : Mirrors Value.formula x y) :
    Mirrors Value.formula (lookUp name x) (checkedLookUp name y) := by
  refine get.bind fun memo => ?_
  rw [Memo.lookup_formulas]
  cases memo.lookup name with
  | some value => exact pure value
  | none => exact below.bind fun value => (note name value).bind fun _ => pure value

theorem operand (op : Op) {x : StateT Memo (Except EvalError) Value}
    {y : StateT FormulaMemo (Except Fault) Formula} (below : Mirrors Value.formula x y) :
    Mirrors id (x >>= fun value => liftM (value.operand op))
      (y >>= fun result => liftM (result.operand op)) :=
  below.bind fun value => lift (by rw [value.operand_formula, Except.map_id, id])

end Mirrors

theorem checkedReduce_mirrors (bindings : Bindings) (limit : Nat) (path : List String)
    (f : Formula) : Mirrors Value.formula (reduce bindings limit path f)
      (checkedReduce bindings limit path f) := by
  induction limit generalizing path f with
  | zero => exact .error .tooDeep
  | succ limit ih =>
      cases f with
      | empty => exact .pure Value.empty
      | constant n => exact .pure (Value.number n)
      | reference name =>
          simp only [reduce, checkedReduce]
          cases bindings name with
          | none => exact .pure (Value.unbound name)
          | some bound =>
              dsimp only
              split
              · exact .error (.circular name)
              · exact .lookUp (ih (name :: path) bound)
      | operator op operands =>
          -- the operands leave formulas, but what goes on from them are the same numbers on both sides
          refine Mirrors.bind (.mapM fun operand _ => .operand op (ih path operand)) fun numbers => ?_
          rw [List.map_id]
          exact .lift (checkedCombine_eq op numbers)

/-! ## Values -/

variable {bindings : Bindings} {limit : Nat} {f : Formula}

theorem checkedValueWithin_eq (bindings : Bindings) (limit : Nat) (f : Formula) :
    checkedValueWithin bindings limit f =
      ((valueWithin bindings limit f).map Value.formula).mapError .eval := by
  have mirrored : checkedReduce bindings limit [] f [] = _ :=
    checkedReduce_mirrors bindings limit [] f []
  show (checkedReduce bindings limit [] f []).map Prod.fst =
    (((reduce bindings limit [] f []).map Prod.fst).map Value.formula).mapError .eval
  rw [mirrored]
  cases reduce bindings limit [] f [] <;> rfl

/-- Where all formulas were built in the checked ways, an evaluation that makes every check is left
with a formula or fails with a type error, and so does evaluation without these checks. -/
theorem evaluation_fails_with_type_errors (built : f.Built)
    (bound : ∀ name g, bindings name = some g → g.Built) (limit : Nat) :
    ((∃ result, checkedValueWithin bindings limit f = .ok result) ∨
      ∃ e, checkedValueWithin bindings limit f = .error (.eval e) ∧ e.IsTypeError) ∧
    checkedValueWithin bindings limit f =
      ((valueWithin bindings limit f).map Value.formula).mapError .eval := by
  refine ⟨?_, checkedValueWithin_eq bindings limit f⟩
  rw [checkedValueWithin_eq]
  cases outcome : valueWithin bindings limit f with
  | ok value => exact .inl ⟨value.formula, rfl⟩
  | error e =>
      have wellFormed : bindings.WellFormed := fun name g found => (bound name g found).wellFormed
      exact .inr ⟨e, rfl, isTypeError_of_failed wellFormed built.wellFormed outcome⟩

theorem evaluation_fails_with_type_errors_unwritable : ∃ (env : Table String Formula) (f : Formula),
    env = .ofList [("long", .constant (Nat.pow 10 maxDigits)),
      ("rest", .operator .subtract [.reference "long", .reference "long"])] ∧
    (Formula.constant (Nat.pow 10 maxDigits)).render = .error .writing ∧
    Grammar.stock.parse "1 / rest" = .ok f ∧ f.Built ∧
    (∀ name g, env.get? name = some g → g.Built) ∧
    checkedValueWithin env.get? 5 f = .error (.eval (.rule .divisionByZero)) ∧
    EvalError.IsTypeError (.rule .divisionByZero) := by
  let env : Table String Formula := .ofList [("long", .constant (Nat.pow 10 maxDigits)),
    ("rest", .operator .subtract [.reference "long", .reference "long"])]
  have wellFormed : Bindings.WellFormed env.get? := Table.wellFormed_get? (by decide +kernel)
  have bound : ∀ name g, env.get? name = some g → g.Built :=
    fun name g found => (wellFormed name g found).built
  have read : Grammar.stock.parse "1 / rest" =
      .ok (.operator .divide [.constant 1, .reference "rest"]) := rfl
  have failed : valueWithin env.get? 5 (.operator .divide [.constant 1, .reference "rest"]) =
      .error (.rule .divisionByZero) := by
    decide +kernel
  obtain ⟨outcome, same⟩ := evaluation_fails_with_type_errors (.read read) bound 5
  rw [failed] at same
  rcases outcome with ⟨result, done⟩ | ⟨e, stopped, typeError⟩
  · rw [done] at same
    cases same
  · rw [stopped] at same
    cases same
    exact ⟨env, _, rfl, by decide +kernel, read, .read read, bound, stopped, typeError⟩

end FormulaGrid
