import FormulaGrid.Evaluation.Recorded
import FormulaGrid.Proofs.Evaluation.Solutions

/-!
# Every name is begun once

At every moment the names that were begun are those of the path and of the memo (`Progress.Valid`).
-/

namespace FormulaGrid

/-! ## Running a computation with a record -/

theorem record_bind_cases {α β : Type} (x : Recording α) (k : α → Recording β) (p : Progress) :
    (∃ e q, x.run.run p = (.error e, q) ∧ (x >>= k).run.run p = (.error e, q)) ∨
    ∃ a q, x.run.run p = (.ok a, q) ∧ (x >>= k).run.run p = (k a).run.run q := by
  have unfolded : (x >>= k).run.run p =
      (x.run.run p >>= fun r => (ExceptT.bindCont k r.1).run r.2 : Id _) := rfl
  rw [unfolded]
  cases run : x.run.run p with
  | mk result q =>
      cases result with
      | error e => exact .inl ⟨e, q, rfl, rfl⟩
      | ok a => exact .inr ⟨a, q, rfl, rfl⟩

def recordedLookUp (name : String) (x : Recording Value) : Recording Value := do
  match (← get).memo.lookup name with
  | some value => pure value
  | none =>
    modify (Progress.begin name)
    let value ← x
    modify (Progress.note name value)
    pure value

theorem recordedLookUp_of_entry {name : String} {x : Recording Value} {p : Progress} {value : Value}
    (entry : p.memo.lookup name = some value) :
    (recordedLookUp name x).run.run p = (.ok value, p) := by
  unfold recordedLookUp
  rcases record_bind_cases get _ p with ⟨e, q, run, -⟩ | ⟨a, q, run, whole⟩
  · cases run
  · cases run
    rw [whole, entry]
    rfl

theorem recordedLookUp_cases {name : String} (x : Recording Value) {p : Progress}
    (undone : p.memo.lookup name = none) :
    (∃ e q, x.run.run (p.begin name) = (.error e, q) ∧
      (recordedLookUp name x).run.run p = (.error e, q)) ∨
    ∃ value q, x.run.run (p.begin name) = (.ok value, q) ∧
      (recordedLookUp name x).run.run p = (.ok value, q.note name value) := by
  have unfolded : (recordedLookUp name x).run.run p = (do
      let value ← x
      modify (Progress.note name value)
      pure value : Recording Value).run.run (p.begin name) := by
    unfold recordedLookUp
    rcases record_bind_cases get _ p with ⟨e, q, run, -⟩ | ⟨a, q, run, whole⟩
    · cases run
    · cases run
      rw [whole, undone]
      rfl
  rw [unfolded]
  rcases record_bind_cases x _ (p.begin name) with ⟨e, q, run, whole⟩ | ⟨value, q, run, whole⟩
  · exact .inl ⟨e, q, run, whole⟩
  · exact .inr ⟨value, q, run, whole⟩

/-! ## The record -/

def withoutRecord {α : Type} : Except EvalError α × Progress → Except EvalError (α × Memo)
  | (.ok a, p) => .ok (a, p.memo)
  | (.error e, _) => .error e

structure Progress.Valid (path : List String) (p : Progress) : Prop where
  once : p.begun.Nodup
  stages : p.begun.Perm (path ++ p.memo.map Prod.fst)

theorem Progress.Valid.start : Progress.start.Valid [] where
  once := List.nodup_nil
  stages := .nil

theorem Progress.Valid.begin {path : List String} {p : Progress} (valid : p.Valid path)
    {name : String} (new : name ∉ path) (undone : p.memo.lookup name = none) :
    (p.begin name).Valid (name :: path) where
  once := by
    refine List.nodup_cons.mpr ⟨fun again => ?_, valid.once⟩
    rcases List.mem_append.mp (valid.stages.mem_iff.mp again) with on | done
    · exact new on
    · obtain ⟨entry, member, rfl⟩ := List.mem_map.mp done
      have other := List.lookup_eq_none_iff.mp undone entry member
      simp at other
  stages := valid.stages.cons name

theorem Progress.Valid.note {path : List String} {name : String} {p : Progress}
    (valid : p.Valid (name :: path)) (value : Value) : (p.note name value).Valid path where
  once := valid.once
  stages := valid.stages.trans List.perm_middle.symm

/-- A computation with a record does what one without it does. It begins no name twice, whether it fails
or not, and only names that it meets. -/
structure Records (path : List String) (met : String → Prop) {α : Type} (x : Recording α)
    (y : StateT Memo (Except EvalError) α) : Prop where
  same : ∀ p, y p.memo = withoutRecord (x.run.run p)
  once : ∀ p, p.Valid path → (x.run.run p).2.begun.Nodup
  keeps : ∀ p a q, p.Valid path → x.run.run p = (.ok a, q) → q.Valid path
  within : ∀ p, ∀ name ∈ (x.run.run p).2.begun, name ∈ p.begun ∨ met name

namespace Records
variable {α β : Type} {path : List String} {met : String → Prop} {x : Recording α}
  {y : StateT Memo (Except EvalError) α}

theorem lift (outcome : Except EvalError α) :
    Records path met (liftM outcome) (liftM outcome) where
  same p := by cases outcome <;> rfl
  once p valid := valid.once
  keeps p a q valid done := by
    cases done
    exact valid
  within p name member := .inl member

theorem mono {met' : String → Prop} (h : Records path met x y) (more : ∀ name, met name → met' name) :
    Records path met' x y where
  same := h.same
  once := h.once
  keeps := h.keeps
  within p name member := (h.within p name member).imp_right (more name)

theorem bind {k : α → Recording β} {k' : α → StateT Memo (Except EvalError) β}
    (first : Records path met x y) (rest : ∀ a, Records path met (k a) (k' a)) :
    Records path met (x >>= k) (y >>= k') where
  same p := by
    have same := first.same p
    rcases record_bind_cases x k p with ⟨e, q, run, whole⟩ | ⟨a, q, run, whole⟩
    · rw [run] at same
      rw [whole, run_bind_of_error same, withoutRecord]
    · rw [run] at same
      rw [whole, run_bind_of_ok same, (rest a).same q]
  once p valid := by
    have once := first.once p valid
    rcases record_bind_cases x k p with ⟨e, q, run, whole⟩ | ⟨a, q, run, whole⟩
    · rw [run] at once
      rwa [whole]
    · rw [whole]
      exact (rest a).once q (first.keeps p a q valid run)
  keeps p b r valid done := by
    rcases record_bind_cases x k p with ⟨e, q, run, whole⟩ | ⟨a, q, run, whole⟩
    · rw [whole] at done
      cases done
    · rw [whole] at done
      exact (rest a).keeps q b r (first.keeps p a q valid run) done
  within p name member := by
    have within := first.within p name
    rcases record_bind_cases x k p with ⟨e, q, run, whole⟩ | ⟨a, q, run, whole⟩
    · rw [whole] at member
      rw [run] at within
      exact within member
    · rw [whole] at member
      rw [run] at within
      exact ((rest a).within q name member).elim within .inr

theorem mapM {f : β → Recording α} {g : β → StateT Memo (Except EvalError) α} {xs : List β}
    (each : ∀ x ∈ xs, Records path met (f x) (g x)) :
    Records path met (xs.mapM f) (xs.mapM g) := by
  induction xs with
  | nil => exact lift (.ok [])
  | cons x xs ih =>
      rw [List.mapM_cons, List.mapM_cons]
      refine (each x List.mem_cons_self).bind fun y => ?_
      exact (ih fun z member => each z (List.mem_cons_of_mem x member)).bind fun ys =>
        lift (.ok (y :: ys))

theorem lookUp {name : String} {x : Recording Value} {y : StateT Memo (Except EvalError) Value}
    (new : name ∉ path) (reached : met name) (below : Records (name :: path) met x y) :
    Records path met (recordedLookUp name x) (lookUp name y) where
  same p := by
    cases entry : p.memo.lookup name with
    | some value => rw [recordedLookUp_of_entry entry, lookUp_of_entry entry, withoutRecord]
    | none =>
        have same := below.same (p.begin name)
        rcases recordedLookUp_cases x entry with ⟨e, q, run, whole⟩ | ⟨value, q, run, whole⟩
        · rw [run] at same
          rw [whole, lookUp_of_error entry same, withoutRecord]
        · rw [run] at same
          rw [whole, lookUp_of_ok entry same, withoutRecord, Progress.note]
  once p valid := by
    cases entry : p.memo.lookup name with
    | some value =>
        rw [recordedLookUp_of_entry entry]
        exact valid.once
    | none =>
        have once := below.once (p.begin name) (valid.begin new entry)
        rcases recordedLookUp_cases x entry with ⟨e, q, run, whole⟩ | ⟨value, q, run, whole⟩
        · rw [run] at once
          rwa [whole]
        · rw [run] at once
          rwa [whole]
  keeps p value q valid done := by
    cases entry : p.memo.lookup name with
    | some value' =>
        rw [recordedLookUp_of_entry entry] at done
        cases done
        exact valid
    | none =>
        rcases recordedLookUp_cases x entry with ⟨e, q, run, whole⟩ | ⟨value, q, run, whole⟩
        · rw [whole] at done
          cases done
        · rw [whole] at done
          cases done
          exact (below.keeps _ _ _ (valid.begin new entry) run).note value
  within p other member := by
    cases entry : p.memo.lookup name with
    | some value =>
        rw [recordedLookUp_of_entry entry] at member
        exact .inl member
    | none =>
        have within := below.within (p.begin name) other
        have begun : other ∈ (p.begin name).begun → other ∈ p.begun ∨ met other := by
          intro member
          rcases List.mem_cons.mp member with rfl | before
          · exact .inr reached
          · exact .inl before
        rcases recordedLookUp_cases x entry with ⟨e, q, run, whole⟩ | ⟨value, q, run, whole⟩
        · rw [whole] at member
          rw [run] at within
          exact (within member).elim begun .inr
        · rw [whole] at member
          rw [run] at within
          exact (within member).elim begun .inr

end Records

/-! ## Evaluation -/

def Bindings.Meets (bindings : Bindings) (f : Formula) (name : String) : Prop :=
  (bindings name).isSome ∧ bindings.Reaches f name

theorem recordedReduce_records (bindings : Bindings) (limit : Nat) (path : List String)
    (f : Formula) : Records path (bindings.Meets f) (recordedReduce bindings limit path f)
      (reduce bindings limit path f) := by
  induction limit generalizing path f with
  | zero => exact .lift (.error .tooDeep)
  | succ limit ih =>
      cases f with
      | empty => exact .lift (.ok Value.empty)
      | constant n => exact .lift (.ok (Value.number n))
      | reference name =>
          simp only [recordedReduce, reduce]
          cases found : bindings name with
          | none => exact .lift (.ok (Value.unbound name))
          | some g =>
              dsimp only
              split
              · exact .lift (.error (.circular name))
              · rename_i new
                refine .lookUp new ⟨by rw [found]; rfl, .self name⟩ ?_
                exact (ih (name :: path) g).mono fun next met => ⟨met.1, .of_reference found met.2⟩
      | operator op operands =>
          refine Records.bind (.mapM fun operand member => ?_) fun numbers => .lift _
          refine ((ih path operand).mono fun next met => ?_).bind fun value => .lift _
          exact ⟨met.1, .of_operand member met.2⟩

section
variable {bindings : Bindings} {limit : Nat} {f : Formula} {value : Value} {p : Progress}

theorem reduce_eq_withoutRecord (bindings : Bindings) (limit : Nat) (f : Formula) :
    (reduce bindings limit [] f).run [] = withoutRecord (recordedValueWithin bindings limit f) :=
  (recordedReduce_records bindings limit [] f).same .start

theorem recordedValueWithin_fst (bindings : Bindings) (limit : Nat) (f : Formula) :
    (recordedValueWithin bindings limit f).1 = valueWithin bindings limit f := by
  have forgotten : valueWithin bindings limit f =
      (withoutRecord (recordedValueWithin bindings limit f)).map Prod.fst := by
    rw [← reduce_eq_withoutRecord]
    rfl
  rw [forgotten]
  cases recordedValueWithin bindings limit f with
  | mk result q => cases result <;> rfl

theorem nodup_begun (bindings : Bindings) (limit : Nat) (f : Formula) :
    (recordedValueWithin bindings limit f).2.begun.Nodup :=
  (recordedReduce_records bindings limit [] f).once .start .start

theorem met_of_mem_begun {name : String}
    (begun : name ∈ (recordedValueWithin bindings limit f).2.begun) : bindings.Meets f name :=
  ((recordedReduce_records bindings limit [] f).within .start name begun).resolve_left
    List.not_mem_nil

theorem begun_perm_of_ok (done : recordedValueWithin bindings limit f = (.ok value, p)) :
    p.begun.Perm (p.memo.map Prod.fst) :=
  ((recordedReduce_records bindings limit [] f).keeps .start value p .start done).stages

theorem mem_begun_iff_of_ok (done : recordedValueWithin bindings limit f = (.ok value, p))
    {name : String} : name ∈ p.begun ↔ (p.memo.lookup name).isSome := by
  rw [(begun_perm_of_ok done).mem_iff, List.mem_map, List.lookup_isSome_iff]
  exact exists_congr fun entry => and_congr_right fun _ => by rw [beq_iff_eq, eq_comm]

theorem grows_of_ok (done : recordedValueWithin bindings limit f = (.ok value, p)) :
    Memo.Grows bindings [] f.names [] p.memo := by
  have run := reduce_eq_withoutRecord bindings limit f
  rw [done, withoutRecord] at run
  exact (reduce_follows bindings limit [] f).grows [] value p.memo .empty run

theorem hasValue_of_entry {memo : Memo} (valid : memo.Valid bindings []) {name : String}
    (entry : memo.lookup name = some value) : (Formula.reference name).HasValue bindings value := by
  obtain ⟨g, found, settled⟩ := valid.value name value entry
  obtain ⟨deep, done⟩ := settled.exists
  have plain : plainValueWithin bindings (deep + 1) (.reference name) = .ok value :=
    (plainReduce_reference_eq_ok found).mpr ⟨List.not_mem_nil, done⟩
  exact hasValue_of_plain plain

end

theorem length_begun_le (env : Table String Formula) (limit : Nat) (f : Formula) :
    (recordedValueWithin env.get? limit f).2.begun.length ≤ env.keys.length := by
  have within : (recordedValueWithin env.get? limit f).2.begun ⊆ env.keys :=
    fun name begun => Table.mem_keys_iff.mpr (met_of_mem_begun begun).1
  exact ((nodup_begun env.get? limit f).subperm within).length_le

/-- No name is begun twice, whether evaluation fails or not. If it does not, the names that are begun are
those that are bound and reached, and the memo has the value of each of them. -/
theorem names_begun_once (bindings : Bindings) (limit : Nat) (f : Formula) :
    (recordedValueWithin bindings limit f).1 = valueWithin bindings limit f ∧
    (reduce bindings limit [] f).run [] = withoutRecord (recordedValueWithin bindings limit f) ∧
    (recordedValueWithin bindings limit f).2.begun.Nodup ∧
    (∀ name ∈ (recordedValueWithin bindings limit f).2.begun,
      (bindings name).isSome ∧ bindings.Reaches f name) ∧
    ∀ value p, recordedValueWithin bindings limit f = (.ok value, p) →
      (∀ name, name ∈ p.begun ↔ (bindings name).isSome ∧ bindings.Reaches f name) ∧
      p.begun.Perm (p.memo.map Prod.fst) ∧
      ∀ name ∈ p.begun, ∃ result, p.memo.lookup name = some result ∧
        (Formula.reference name).HasValue bindings result := by
  have met : ∀ name ∈ (recordedValueWithin bindings limit f).2.begun, bindings.Meets f name :=
    fun name => met_of_mem_begun
  refine ⟨recordedValueWithin_fst bindings limit f, reduce_eq_withoutRecord bindings limit f,
    nodup_begun bindings limit f, met, fun value p done => ?_⟩
  rw [done] at met
  have grows := grows_of_ok done
  refine ⟨fun name => ⟨met name, fun ⟨bound, reached⟩ => ?_⟩, begun_perm_of_ok done,
    fun name begun => ?_⟩
  · exact (mem_begun_iff_of_ok done).mpr (grows.valid.reached grows.covers reached bound)
  · obtain ⟨result, entry⟩ := Option.isSome_iff_exists.mp ((mem_begun_iff_of_ok done).mp begun)
    exact ⟨result, entry, hasValue_of_entry grows.valid entry⟩

theorem names_begun_once_shared : ∃ (env : Table String Formula) (p : Progress),
    env = .ofList [("a", .constant 2), ("b", .reference "a"),
      ("c", .operator .multiply [.reference "b", .reference "a"]),
      ("x", .reference "y"), ("y", .reference "x")] ∧
    let f := Formula.operator .add [.reference "c", .reference "a", .reference "b"]
    let g := Formula.operator .add [.reference "c", .reference "x"]
    recordedValueWithin env.get? 6 f = (.ok (.number 8), p) ∧ p.begun = ["a", "b", "c"] ∧
    ¬Bindings.Reaches env.get? f "x" ∧
    (∃ result, p.memo.lookup "b" = some result ∧
      (Formula.reference "b").HasValue env.get? result) ∧
    (recordedValueWithin env.get? 6 g).1 = .error (.circular "x") ∧
    (recordedValueWithin env.get? 6 g).2.begun = ["y", "x", "a", "b", "c"] ∧
    (recordedValueWithin env.get? 6 g).2.begun.Nodup := by
  let env : Table String Formula := .ofList [("a", .constant 2), ("b", .reference "a"),
    ("c", .operator .multiply [.reference "b", .reference "a"]),
    ("x", .reference "y"), ("y", .reference "x")]
  let p : Progress := ⟨[("c", .number 4), ("b", .number 2), ("a", .number 2)], ["a", "b", "c"]⟩
  let q : Progress :=
    ⟨[("c", .number 4), ("b", .number 2), ("a", .number 2)], ["y", "x", "a", "b", "c"]⟩
  refine ⟨env, p, rfl, ?_⟩
  intro f g
  have done : recordedValueWithin env.get? 6 f = (.ok (.number 8), p) := by decide +kernel
  have failed : recordedValueWithin env.get? 6 g = (.error (.circular "x"), q) := by
    decide +kernel
  obtain ⟨-, -, -, -, finished⟩ := names_begun_once env.get? 6 f
  obtain ⟨exact, -, values⟩ := finished _ _ done
  obtain ⟨-, -, once, -⟩ := names_begun_once env.get? 6 g
  rw [failed] at once ⊢
  refine ⟨done, rfl, fun reached => ?_, values "b" (by decide), rfl, rfl, once⟩
  exact absurd ((exact "x").mpr ⟨rfl, reached⟩) (by decide)

end FormulaGrid
