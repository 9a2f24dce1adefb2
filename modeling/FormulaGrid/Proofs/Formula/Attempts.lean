import FormulaGrid.Formula.Grammar

namespace FormulaGrid
open Text

/-- Whatever was noted before, a computation that takes notes ends in this way. -/
def Yields {α : Type} (x : ExceptT ParseError (StateM (List Op)) α) (outcome : Except ParseError α) :
    Prop :=
  ∀ notes, (x.run.run notes).1 = outcome

namespace Yields
variable {α β : Type}

theorem pure (a : α) : Yields (Pure.pure a) (.ok a) :=
  fun _ => rfl

theorem liftExcept (x : Except ParseError α) : Yields (liftExcept x) (liftExcept x) := by
  intro notes
  cases x <;> rfl

theorem bind {x : ExceptT ParseError (StateM (List Op)) α} {outcome : Except ParseError α}
    {f : α → ExceptT ParseError (StateM (List Op)) β} {g : α → Except ParseError β}
    (first : Yields x outcome) (next : ∀ a, Yields (f a) (g a)) :
    Yields (x >>= f) (outcome >>= g) := by
  intro notes
  have same := first notes
  rw [ExceptT.run_bind, StateT.run_bind]
  cases ended : x.run.run notes with
  | mk result later =>
      rw [ended] at same
      cases same
      cases result with
      | ok a => exact next a later
      | error e => rfl

theorem mapM {f : α → ExceptT ParseError (StateM (List Op)) β} {g : α → Except ParseError β}
    (each : ∀ a, Yields (f a) (g a)) (xs : List α) : Yields (xs.mapM f) (xs.mapM g) := by
  induction xs with
  | nil => exact pure []
  | cons a xs ih =>
      rw [List.mapM_cons, List.mapM_cons]
      exact (each a).bind fun b => ih.bind fun bs => pure (b :: bs)

theorem findSomeM? {f : α → ExceptT ParseError (StateM (List Op)) (Option β)}
    {g : α → Except ParseError (Option β)} (each : ∀ a, Yields (f a) (g a)) (xs : List α) :
    Yields (xs.findSomeM? f) (xs.findSomeM? g) := by
  induction xs with
  | nil => exact pure none
  | cons a xs ih =>
      rw [List.findSomeM?, List.findSomeM?]
      refine (each a).bind fun found => ?_
      cases found with
      | none => exact ih
      | some b => exact pure (some b)

theorem readAt {build : Op → List Formula → ExceptT ParseError (StateM (List Op)) (Option Formula)}
    {build' : Op → List Formula → Except ParseError (Option Formula)}
    (built : ∀ op operands, Yields (build op operands) (build' op operands)) (depth : Nat)
    (text : List Char) : Yields (readAt build depth text) (readAt build' depth text) := by
  induction depth generalizing text with
  | zero => exact liftExcept _
  | succ depth ih =>
      simp only [FormulaGrid.readAt]
      cases readLiteral? (trim text) with
      | some result => exact liftExcept result
      | none =>
          refine (findSomeM? (fun op => ?_) Op.all).bind fun found => ?_
          · split
            · exact (mapM ih _).bind fun operands => built op operands
            · exact pure none
          · cases found with
            | some f => exact pure f
            | none => exact liftExcept _

end Yields

theorem Grammar.attempts_fst (g : Grammar) (text : String) :
    (g.attempts text).1 = g.parse text := by
  have noted (op : Op) (operands : List Formula) :
      Yields (do modify (op :: ·); return g.node? op operands) (.ok (g.node? op operands)) :=
    fun _ => rfl
  exact Yields.readAt noted Op.all.length text.toList []

end FormulaGrid
