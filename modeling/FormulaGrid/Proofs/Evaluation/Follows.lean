import FormulaGrid.Proofs.Evaluation.Depth
import FormulaGrid.Proofs.Evaluation.Memo

/-!
# The memo changes nothing

`Follows` says of a computation with a memo that it does what a plain one does, and it is closed
under the ways in which evaluation is put together. The limit stands between the two: the plain
computation may be cut off where the other one reads its memo.
-/

namespace FormulaGrid
open Filter

section
variable {α β : Type} {x : StateT Memo (Except EvalError) α}
  {k : α → StateT Memo (Except EvalError) β} {memo : Memo}

theorem run_get (memo : Memo) :
    (get : StateT Memo (Except EvalError) Memo) memo = .ok (memo, memo) := rfl

theorem run_bind_of_ok {a : α} {grown : Memo} (run : x memo = .ok (a, grown)) :
    (x >>= k) memo = k a grown := by
  show (x memo >>= fun result => k result.1 result.2) = k a grown
  rw [run]
  rfl

theorem run_bind_of_error {e : EvalError} (run : x memo = .error e) :
    (x >>= k) memo = .error e := by
  show (x memo >>= fun result => k result.1 result.2) = .error e
  rw [run]
  rfl

end

/-! ## Looking a name up -/

def lookUp (name : String) (x : StateT Memo (Except EvalError) Value) :
    StateT Memo (Except EvalError) Value := do
  match (← get).lookup name with
  | some value => pure value
  | none =>
    let value ← x
    modify ((name, value) :: ·)
    pure value

section
variable {name : String} {x : StateT Memo (Except EvalError) Value} {memo : Memo} {value : Value}

theorem lookUp_of_entry (entry : memo.lookup name = some value) :
    lookUp name x memo = .ok (value, memo) := by
  rw [lookUp, run_bind_of_ok (run_get memo), entry]
  rfl

theorem lookUp_of_ok {grown : Memo} (new : memo.lookup name = none)
    (run : x memo = .ok (value, grown)) :
    lookUp name x memo = .ok (value, (name, value) :: grown) := by
  rw [lookUp, run_bind_of_ok (run_get memo), new]
  dsimp only
  rw [run_bind_of_ok run]
  rfl

theorem lookUp_of_error {e : EvalError} (new : memo.lookup name = none)
    (run : x memo = .error e) : lookUp name x memo = .error e := by
  rw [lookUp, run_bind_of_ok (run_get memo), new]
  dsimp only
  rw [run_bind_of_error run]

end

/-! ## Computations with and without a memo -/

/-- With any valid memo the computation has the outcome of the plain one, up to being cut off; and
unless it is cut off, this is the plain outcome where the limit is deep enough. -/
structure Follows (bindings : Bindings) (path names : List String) (limit : Nat) {α : Type}
    (memoised : StateT Memo (Except EvalError) α) (plain : Nat → Except EvalError α) : Prop where
  agrees : ∀ memo, memo.Valid bindings path → CutOff (plain limit) ((memoised memo).map Prod.fst)
  settles : ∀ memo, memo.Valid bindings path →
    ∀ᶠ deep in atTop, CutOff ((memoised memo).map Prod.fst) (plain deep)
  grows : ∀ memo value grown, memo.Valid bindings path → memoised memo = .ok (value, grown) →
    memo.Grows bindings path names grown

namespace Follows
variable {bindings : Bindings} {path names names' : List String} {limit : Nat} {α β : Type}

theorem returns {x : StateT Memo (Except EvalError) α} {plain : Nat → Except EvalError α}
    (follows : Follows bindings path names limit x plain) {memo grown : Memo} {value : α}
    (valid : memo.Valid bindings path) (run : x memo = .ok (value, grown)) :
    ∀ᶠ deep in atTop, plain deep = .ok value := by
  have settles := follows.settles memo valid
  rw [run] at settles
  exact settles.mono fun deep cut => cut.eq_ok

theorem lift (outcome : Except EvalError α) (unbound : ∀ name ∈ names, bindings name = none) :
    Follows bindings path names limit (liftM outcome) fun _ => outcome where
  agrees _ _ := by
    cases outcome <;> exact .refl _
  settles _ _ := by
    cases outcome <;> exact .of_forall fun _ => .refl _
  grows memo value grown valid done := by
    cases outcome with
    | error e => cases done
    | ok a =>
        cases done
        refine ⟨valid, fun _ entry => entry, fun name member bound => ?_⟩
        rw [unbound name member] at bound
        cases bound

theorem error (e : EvalError) : Follows bindings path names limit (throw e : StateT Memo _ α)
    fun _ => .error e where
  agrees _ _ := .refl _
  settles _ _ := .of_forall fun _ => .refl _
  grows _ _ _ _ done := nomatch done

theorem bind {x : StateT Memo (Except EvalError) α} {plain : Nat → Except EvalError α}
    {k : α → StateT Memo (Except EvalError) β} {next : Nat → α → Except EvalError β}
    (first : Follows bindings path names limit x plain)
    (rest : ∀ a, Follows bindings path names' limit (k a) fun limit => next limit a) :
    Follows bindings path (names ++ names') limit (x >>= k)
      fun limit => plain limit >>= next limit where
  agrees memo valid := by
    have agrees := first.agrees memo valid
    cases run : x memo with
    | error e =>
        rw [run] at agrees
        rw [run_bind_of_error run]
        exact agrees.bind fun _ => .refl _
    | ok result =>
        obtain ⟨a, grown⟩ := result
        have valid' := (first.grows memo a grown valid run).valid
        rw [run] at agrees
        rw [run_bind_of_ok run]
        rcases agrees with cut | same
        · exact .inl (by rw [cut]; rfl)
        · rw [same]
          exact (rest a).agrees grown valid'
  settles memo valid := by
    cases run : x memo with
    | error e =>
        have settles := first.settles memo valid
        rw [run] at settles
        rw [run_bind_of_error run]
        exact settles.mono fun deep cut => cut.bind fun _ => .refl _
    | ok result =>
        obtain ⟨a, grown⟩ := result
        have valid' := (first.grows memo a grown valid run).valid
        rw [run_bind_of_ok run]
        filter_upwards [first.returns valid run, (rest a).settles grown valid'] with deep done cut
        rw [done]
        exact cut
  grows memo value full valid done := by
    cases run : x memo with
    | error e =>
        rw [run_bind_of_error run] at done
        cases done
    | ok result =>
        obtain ⟨a, grown⟩ := result
        have grows := first.grows memo a grown valid run
        rw [run_bind_of_ok run] at done
        exact grows.trans ((rest a).grows grown value full grows.valid done)

theorem mapM {f : α → StateT Memo (Except EvalError) β} {g : Nat → α → Except EvalError β}
    {read : α → List String} {xs : List α}
    (each : ∀ x ∈ xs, Follows bindings path (read x) limit (f x) fun limit => g limit x) :
    Follows bindings path (xs.flatMap read) limit (xs.mapM f) fun limit => xs.mapM (g limit) := by
  induction xs with
  | nil => exact lift (.ok []) (List.forall_mem_nil _)
  | cons x xs ih =>
      simp only [List.mapM_cons, List.flatMap_cons]
      apply (each x List.mem_cons_self).bind
      intro y
      have rest := ih fun z member => each z (List.mem_cons_of_mem x member)
      rw [← List.append_nil (xs.flatMap read)]
      exact rest.bind fun ys => lift (.ok (y :: ys)) (List.forall_mem_nil _)

theorem lookUp {name : String} {f : Formula} {x : StateT Memo (Except EvalError) Value}
    (bound : bindings name = some f) (new : name ∉ path)
    (below : Follows bindings (name :: path) f.names limit x
      fun limit => plainReduce bindings limit (name :: path) f) :
    Follows bindings path [name] limit (lookUp name x)
      fun limit => plainReduce bindings limit (name :: path) f where
  agrees memo valid := by
    cases entry : memo.lookup name with
    | some value =>
        rw [lookUp_of_entry entry]
        have settled := valid.recall entry bound
        obtain ⟨deep, done, le⟩ := (settled.and (eventually_ge_atTop limit)).exists
        have agrees := plainReduce_cutOff bindings le (name :: path) f
        rw [done] at agrees
        exact agrees
    | none =>
        have agrees := below.agrees memo (valid.enter entry)
        cases run : x memo with
        | error e =>
            rw [lookUp_of_error entry run]
            rwa [run] at agrees
        | ok result =>
            rw [lookUp_of_ok entry run]
            rwa [run] at agrees
  settles memo valid := by
    cases entry : memo.lookup name with
    | some value =>
        rw [lookUp_of_entry entry]
        exact (valid.recall entry bound).mono fun deep done => .inr done.symm
    | none =>
        have settles := below.settles memo (valid.enter entry)
        cases run : x memo with
        | error e =>
            rw [lookUp_of_error entry run]
            rwa [run] at settles
        | ok result =>
            rw [lookUp_of_ok entry run]
            rwa [run] at settles
  grows memo value grown valid done := by
    cases entry : memo.lookup name with
    | some value' =>
        rw [lookUp_of_entry entry] at done
        cases done
        refine ⟨valid, fun _ entry => entry, fun next member _ => ?_⟩
        rw [List.mem_singleton.mp member, entry]
        rfl
    | none =>
        cases run : x memo with
        | error e =>
            rw [lookUp_of_error entry run] at done
            cases done
        | ok result =>
            rw [lookUp_of_ok entry run] at done
            cases done
            have grows := below.grows memo result.1 result.2 (valid.enter entry) run
            exact grows.leave bound new (below.returns (valid.enter entry) run)

theorem deeper {x : StateT Memo (Except EvalError) α} {plain : Nat → Except EvalError α}
    (h : Follows bindings path names limit x fun limit => plain (limit + 1)) :
    Follows bindings path names (limit + 1) x plain where
  agrees := h.agrees
  settles memo valid := by
    rw [← map_add_atTop_eq_nat 1]
    exact h.settles memo valid
  grows := h.grows

end Follows

/-! ## Evaluation -/

theorem reduce_follows (bindings : Bindings) (limit : Nat) (path : List String) (f : Formula) :
    Follows bindings path f.names limit (reduce bindings limit path f)
      fun limit => plainReduce bindings limit path f := by
  induction limit generalizing path f with
  | zero =>
      constructor
      · exact fun _ _ => .inl rfl
      · exact fun _ _ => .of_forall fun _ => .inl rfl
      · intro _ _ _ _ done
        cases done
  | succ limit ih =>
      apply Follows.deeper
      cases f with
      | empty => exact .lift (.ok Value.empty) (List.forall_mem_nil _)
      | constant n => exact .lift (.ok (Value.number n)) (List.forall_mem_nil _)
      | reference name =>
          simp only [reduce, plainReduce]
          cases found : bindings name with
          | none => exact .lift (.ok (Value.unbound name)) (List.forall_mem_singleton.mpr found)
          | some f =>
              simp only
              split
              · exact .error _
              · rename_i new
                exact .lookUp found new (ih (name :: path) f)
      | operator op operands =>
          rw [Formula.names_operator, ← List.append_nil (operands.flatMap Formula.names)]
          refine (Follows.mapM fun operand _ => ?_).bind fun numbers => .lift _ (List.forall_mem_nil _)
          rw [← List.append_nil operand.names]
          exact (ih path operand).bind fun value => .lift _ (List.forall_mem_nil _)

theorem plainValueWithin_cutOff (bindings : Bindings) (limit : Nat) (f : Formula) :
    CutOff (plainValueWithin bindings limit f) (valueWithin bindings limit f) :=
  (reduce_follows bindings limit [] f).agrees [] .empty

theorem valueWithin_cutOff (bindings : Bindings) (limit : Nat) (f : Formula) :
    ∀ᶠ deep in atTop, CutOff (valueWithin bindings limit f) (plainValueWithin bindings deep f) :=
  (reduce_follows bindings limit [] f).settles [] .empty

theorem exists_plain_of_ok {bindings : Bindings} {limit : Nat} {f : Formula} {value : Value}
    (done : valueWithin bindings limit f = .ok value) :
    ∃ deep, plainValueWithin bindings deep f = .ok value := by
  obtain ⟨deep, cut⟩ := (valueWithin_cutOff bindings limit f).exists
  rw [done] at cut
  exact ⟨deep, cut.eq_ok⟩

/-! ## Finitely many bound names -/

def deepEnough (env : Table String Formula) (f : Formula) : Nat :=
  env.keys.length * Formula.heightOfAll (env.entries.map Prod.snd) + f.height

theorem plainValueWithin_ne_tooDeep {env : Table String Formula} {f : Formula} {limit : Nat}
    (le : deepEnough env f ≤ limit) : plainValueWithin env.get? limit f ≠ .error .tooDeep := by
  have low : ∀ name g, env.get? name = some g →
      g.height ≤ Formula.heightOfAll (env.entries.map Prod.snd) := by
    intro name g entry
    exact Formula.height_le_heightOfAll (List.mem_map_of_mem (Table.mem_entries_of_get? entry))
  exact plainReduce_ne_tooDeep (fun name => Table.mem_keys_iff.mpr) low List.nodup_nil
    (List.nil_subset _) le

theorem plainValueWithin_eq_deepEnough {env : Table String Formula} {f : Formula} {limit : Nat}
    (le : deepEnough env f ≤ limit) :
    plainValueWithin env.get? limit f = plainValueWithin env.get? (deepEnough env f) f := by
  have cut := plainReduce_cutOff env.get? le [] f
  exact (cut.eq (plainValueWithin_ne_tooDeep (Nat.le_refl _))).symm

theorem valueWithin_eq_deepEnough {env : Table String Formula} {f : Formula} {limit : Nat}
    (le : deepEnough env f ≤ limit) :
    valueWithin env.get? limit f = plainValueWithin env.get? (deepEnough env f) f := by
  have agrees := plainValueWithin_cutOff env.get? limit f
  rw [← agrees.eq (plainValueWithin_ne_tooDeep le), plainValueWithin_eq_deepEnough le]

theorem valueWithin_ne_tooDeep_of_deepEnough {env : Table String Formula} {f : Formula}
    {limit : Nat} (le : deepEnough env f ≤ limit) :
    valueWithin env.get? limit f ≠ .error .tooDeep := by
  rw [valueWithin_eq_deepEnough le]
  exact plainValueWithin_ne_tooDeep (Nat.le_refl _)

theorem valueWithin_cutOff_deepEnough (env : Table String Formula) (limit : Nat) (f : Formula) :
    CutOff (valueWithin env.get? limit f) (plainValueWithin env.get? (deepEnough env f) f) := by
  obtain ⟨deep, cut, le⟩ := ((valueWithin_cutOff env.get? limit f).and
    (eventually_ge_atTop (deepEnough env f))).exists
  rwa [plainValueWithin_eq_deepEnough le] at cut

/-- The memo changes no outcome but that of being cut off, and it cuts nothing off that is not cut off
without it. -/
theorem memo_transparent (env : Table String Formula) (f : Formula) :
    ∃ outcome, outcome ≠ .error .tooDeep ∧
      (∃ enough, ∀ limit, enough ≤ limit → plainValueWithin env.get? limit f = outcome ∧
        valueWithin env.get? limit f = outcome) ∧
      (∀ limit, valueWithin env.get? limit f = .error .tooDeep ∨
        valueWithin env.get? limit f = outcome) ∧
      ∀ limit, plainValueWithin env.get? limit f = .error .tooDeep ∨
        plainValueWithin env.get? limit f = valueWithin env.get? limit f := by
  have uncut := plainValueWithin_ne_tooDeep (Nat.le_refl (deepEnough env f))
  have agrees := fun limit => plainValueWithin_cutOff env.get? limit f
  refine ⟨_, uncut, ⟨deepEnough env f, fun limit le => ?_⟩, fun limit => ?_, agrees⟩
  · have plain := plainValueWithin_eq_deepEnough le
    have same := (agrees limit).eq (plainValueWithin_ne_tooDeep le)
    exact ⟨plain, same.symm.trans plain⟩
  · obtain ⟨deep, cut, le⟩ := ((valueWithin_cutOff env.get? limit f).and
      (eventually_ge_atTop (deepEnough env f))).exists
    rwa [plainValueWithin_eq_deepEnough le] at cut

-- within three calls the second name has a value only if the memo answers for the first one
example :
    let env := Table.ofList [("x", .constant 1), ("y", .reference "x")]
    let f := Formula.operator .add [.reference "x", .reference "y"]
    valueWithin env.get? 3 f = .ok (.number 2) ∧
      plainValueWithin env.get? 3 f = .error .tooDeep := by
  decide

end FormulaGrid
