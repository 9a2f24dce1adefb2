import FormulaGrid.Proofs.Evaluation.Follows

/-!
# What a limit changes

Two evaluations with different limits and the same memo go side by side until the lower limit cuts one
of them off (`reduce_cutsOff`).
-/

namespace FormulaGrid

/-- With every memo a computation does what another one does, or it is cut off. -/
def CutsOff {α : Type} (cut full : StateT Memo (Except EvalError) α) : Prop :=
  ∀ memo, CutOff (cut memo) (full memo)

namespace CutsOff
variable {α β : Type} {cut full : StateT Memo (Except EvalError) α}

theorem refl (x : StateT Memo (Except EvalError) α) : CutsOff x x := fun _ => .refl _

theorem bind {k k' : α → StateT Memo (Except EvalError) β} (first : CutsOff cut full)
    (next : ∀ a, CutsOff (k a) (k' a)) : CutsOff (cut >>= k) (full >>= k') :=
  fun memo => (first memo).bind fun result => next result.1 result.2

theorem mapM {f g : α → StateT Memo (Except EvalError) β} {xs : List α}
    (each : ∀ x ∈ xs, CutsOff (f x) (g x)) : CutsOff (xs.mapM f) (xs.mapM g) := by
  induction xs with
  | nil => exact refl _
  | cons x xs ih =>
      rw [List.mapM_cons, List.mapM_cons]
      refine (each x List.mem_cons_self).bind fun y => ?_
      exact (ih fun z member => each z (List.mem_cons_of_mem x member)).bind fun ys => refl _

theorem lookUp {name : String} {cut full : StateT Memo (Except EvalError) Value}
    (below : CutsOff cut full) : CutsOff (lookUp name cut) (lookUp name full) := by
  refine (refl get).bind fun memo => ?_
  cases memo.lookup name with
  | some value => exact refl _
  | none => exact below.bind fun value => refl _

end CutsOff

theorem reduce_cutsOff (bindings : Bindings) {limit deeper : Nat} (le : limit ≤ deeper)
    (path : List String) (f : Formula) :
    CutsOff (reduce bindings limit path f) (reduce bindings deeper path f) := by
  induction limit generalizing deeper path f with
  | zero => exact fun _ => .inl rfl
  | succ limit ih =>
      obtain ⟨deeper, rfl⟩ := Nat.exists_eq_succ_of_ne_zero (Nat.ne_zero_of_lt le)
      have le : limit ≤ deeper := Nat.le_of_succ_le_succ le
      cases f with
      | empty => exact .refl _
      | constant n => exact .refl _
      | reference name =>
          simp only [reduce]
          split
          · exact .refl _
          · split
            · exact .refl _
            · exact .lookUp (ih le _ _)
      | operator op operands =>
          exact (CutsOff.mapM fun operand _ => (ih le path operand).bind fun _ => .refl _).bind
            fun _ => .refl _

theorem valueWithin_cutOff_deeper (bindings : Bindings) {limit deeper : Nat} (le : limit ≤ deeper)
    (f : Formula) : CutOff (valueWithin bindings limit f) (valueWithin bindings deeper f) :=
  (reduce_cutsOff bindings le [] f []).map Prod.fst

theorem valueWithin_ne_tooDeep {bindings : Bindings} {bound : List String} {f : Formula}
    {height limit : Nat} (finite : ∀ name, (bindings name).isSome → name ∈ bound)
    (low : f.height ≤ height) (lowBound : ∀ name g, bindings name = some g → g.height ≤ height)
    (room : (bound.length + 1) * height ≤ limit) :
    valueWithin bindings limit f ≠ .error .tooDeep := by
  have plain : plainValueWithin bindings limit f ≠ .error .tooDeep := by
    refine plainReduce_ne_tooDeep finite lowBound List.nodup_nil (List.nil_subset _) ?_
    rw [Nat.succ_mul] at room
    rw [List.length_nil, Nat.sub_zero]
    omega
  rwa [(plainValueWithin_cutOff bindings limit f).eq plain] at plain

/-- A lower limit only cuts evaluations off, and not where it leaves as many calls as the highest formula
has nodes on a way down, for the formula and for each bound name. -/
theorem limit_only_cuts_off (env : Table String Formula) (f : Formula) :
    (∀ limit deeper, limit ≤ deeper →
      valueWithin env.get? limit f = valueWithin env.get? deeper f ∨
      valueWithin env.get? limit f = .error .tooDeep) ∧
    (EvalError.tooDeep.message = "reference chain too deep to evaluate") ∧
    ∀ height, f.height ≤ height → (∀ name g, env.get? name = some g → g.height ≤ height) →
      ∀ limit, (env.keys.length + 1) * height ≤ limit →
        valueWithin env.get? limit f ≠ .error .tooDeep := by
  refine ⟨fun limit deeper le => ?_, rfl, ?_⟩
  · exact (valueWithin_cutOff_deeper env.get? le f).symm
  · intro height low lowBound limit room
    exact valueWithin_ne_tooDeep (fun name => Table.mem_keys_iff.mpr) low lowBound room

theorem limit_only_cuts_off_circle : ∃ env : Table String Formula,
    env = .ofList [("a", .operator .add [.reference "b"]), ("b", .operator .add [.reference "a"])] ∧
    let f := Formula.operator .add [.reference "a"]
    f.height ≤ 2 ∧ (∀ name g, env.get? name = some g → g.height ≤ 2) ∧
    (env.keys.length + 1) * 2 = 6 ∧
    valueWithin env.get? 5 f = .error .tooDeep ∧
    ∀ limit, 6 ≤ limit → valueWithin env.get? limit f = .error (.circular "a") := by
  let env : Table String Formula :=
    .ofList [("a", .operator .add [.reference "b"]), ("b", .operator .add [.reference "a"])]
  refine ⟨env, rfl, ?_⟩
  intro f
  have low : f.height ≤ 2 := by decide
  have lowEntries : ∀ entry ∈ env.entries, entry.2.height ≤ 2 := by decide
  have lowBound : ∀ name g, env.get? name = some g → g.height ≤ 2 :=
    fun name g entry => lowEntries _ (Table.mem_entries_of_get? entry)
  have found : valueWithin env.get? 6 f = .error (.circular "a") := by decide
  obtain ⟨deeper, -, enough⟩ := limit_only_cuts_off env f
  refine ⟨low, lowBound, by decide, by decide, fun limit le => ?_⟩
  rcases deeper 6 limit le with same | cut
  · rw [← same, found]
  · exact absurd cut (enough 2 low lowBound 6 (by decide))

end FormulaGrid
