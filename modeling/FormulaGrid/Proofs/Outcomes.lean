import Mathlib.Data.List.Basic
import Mathlib.Data.List.Forall2

namespace FormulaGrid

section
variable {α β ε : Type}

theorem mapM_congr {m : Type → Type} [Monad m] [LawfulMonad m] {f g : α → m β} {xs : List α}
    (same : ∀ x ∈ xs, f x = g x) : xs.mapM f = xs.mapM g := by
  induction xs with
  | nil => rfl
  | cons x xs ih =>
      rw [List.mapM_cons, List.mapM_cons, same x List.mem_cons_self,
        ih fun y member => same y (List.mem_cons_of_mem x member)]

theorem bind_eq_ok {x : Except ε α} {k : α → Except ε β} {b : β} :
    x >>= k = .ok b ↔ ∃ a, x = .ok a ∧ k a = .ok b := by
  cases x with
  | error e => simp [bind, Except.bind]
  | ok a => simp [bind, Except.bind]

theorem map_eq_ok {x : Except ε α} {f : α → β} {b : β} :
    x.map f = .ok b ↔ ∃ a, x = .ok a ∧ f a = b := by
  cases x <;> simp [Except.map]

theorem map_eq_error {x : Except ε α} {f : α → β} {e : ε} : x.map f = .error e ↔ x = .error e := by
  cases x <;> simp [Except.map]

theorem exists_ok_of_mapM {f : α → Except ε β} {xs : List α} {ys : List β}
    (done : xs.mapM f = .ok ys) : ∀ x ∈ xs, ∃ y, f x = .ok y := by
  induction xs generalizing ys with
  | nil => simp
  | cons x xs ih =>
      rw [List.mapM_cons] at done
      obtain ⟨y, first, done⟩ := bind_eq_ok.mp done
      obtain ⟨ys, rest, -⟩ := bind_eq_ok.mp done
      exact List.forall_mem_cons.mpr ⟨⟨y, first⟩, ih rest⟩

theorem bind_ne_error {x : Except ε α} {k : α → Except ε β} {e : ε}
    (first : x ≠ .error e) (next : ∀ a, k a ≠ .error e) : x >>= k ≠ .error e := by
  cases x with
  | error e' => exact fun h => first (by cases h; rfl)
  | ok a => exact next a

theorem mapM_ne_error {f : α → Except ε β} {xs : List α} {e : ε}
    (each : ∀ x ∈ xs, f x ≠ .error e) : xs.mapM f ≠ .error e := by
  induction xs with
  | nil => exact nofun
  | cons x xs ih =>
      rw [List.mapM_cons]
      refine bind_ne_error (each x List.mem_cons_self) fun y => ?_
      have rest := ih fun z member => each z (List.mem_cons_of_mem x member)
      exact bind_ne_error rest fun ys => nofun

theorem bind_eq_error {x : Except ε α} {k : α → Except ε β} {e : ε} :
    x >>= k = .error e ↔ x = .error e ∨ ∃ a, x = .ok a ∧ k a = .error e := by
  cases x with
  | error e' => simp [bind, Except.bind]
  | ok a => simp [bind, Except.bind]

theorem exists_error_of_mapM {f : α → Except ε β} {xs : List α} {e : ε}
    (failed : xs.mapM f = .error e) : ∃ x ∈ xs, f x = .error e := by
  by_contra none
  exact mapM_ne_error (fun x member single => none ⟨x, member, single⟩) failed

theorem mapM_eq_ok_iff {f : α → Except ε β} {xs : List α} {ys : List β} :
    xs.mapM f = .ok ys ↔ List.Forall₂ (fun x y => f x = .ok y) xs ys := by
  induction xs generalizing ys with
  | nil => simp [pure, Except.pure, eq_comm]
  | cons x xs ih =>
      simp only [List.mapM_cons, bind_eq_ok, ih, List.forall₂_cons_left_iff, pure, Except.pure,
        Except.ok.injEq]
      constructor
      · rintro ⟨y, first, rest, others, rfl⟩
        exact ⟨y, rest, first, others, rfl⟩
      · rintro ⟨y, rest, first, others, rfl⟩
        exact ⟨y, first, rest, others, rfl⟩

theorem length_of_mapM {f : α → Except ε β} {xs : List α} {ys : List β}
    (done : xs.mapM f = .ok ys) : xs.length = ys.length :=
  (mapM_eq_ok_iff.mp done).length_eq

theorem exists_mem_of_mapM {f : α → Except ε β} {xs : List α} {ys : List β}
    (done : xs.mapM f = .ok ys) : ∀ y ∈ ys, ∃ x ∈ xs, f x = .ok y := by
  induction mapM_eq_ok_iff.mp done with
  | nil => simp
  | @cons x y xs ys first rest ih =>
      refine List.forall_mem_cons.mpr ⟨⟨x, List.mem_cons_self, first⟩, fun z member => ?_⟩
      obtain ⟨w, within, read⟩ := ih (mapM_eq_ok_iff.mpr rest) z member
      exact ⟨w, List.mem_cons_of_mem x within, read⟩

theorem mem_of_mapM {f : α → Except ε β} {xs : List α} {ys : List β} (done : xs.mapM f = .ok ys)
    {x : α} (member : x ∈ xs) {y : β} (single : f x = .ok y) : y ∈ ys := by
  induction mapM_eq_ok_iff.mp done with
  | nil => cases member
  | @cons first z rest ys head tail ih =>
      rcases List.mem_cons.mp member with rfl | later
      · rw [single] at head
        cases head
        exact List.mem_cons_self
      · exact List.mem_cons_of_mem z (ih (mapM_eq_ok_iff.mpr tail) later)

theorem exists_mapM_eq_ok {f : α → Except ε β} {xs : List α}
    (each : ∀ x ∈ xs, ∃ y, f x = .ok y) : ∃ ys, xs.mapM f = .ok ys := by
  induction xs with
  | nil => exact ⟨[], rfl⟩
  | cons x xs ih =>
      obtain ⟨y, first⟩ := each x List.mem_cons_self
      obtain ⟨ys, rest⟩ := ih fun z member => each z (List.mem_cons_of_mem x member)
      exact ⟨y :: ys, mapM_eq_ok_iff.mpr (.cons first (mapM_eq_ok_iff.mp rest))⟩

theorem mapM_eq_ok_imp {f g : α → Except ε β} {xs : List α} {ys : List β}
    (done : xs.mapM f = .ok ys) (each : ∀ x ∈ xs, ∀ y, f x = .ok y → g x = .ok y) :
    xs.mapM g = .ok ys := by
  rw [mapM_eq_ok_iff] at done ⊢
  induction done with
  | nil => exact .nil
  | @cons x y xs ys first _ ih =>
      obtain ⟨eachFirst, eachRest⟩ := List.forall_mem_cons.mp each
      exact .cons (eachFirst y first) (ih eachRest)

theorem mapM_back {δ : Type} {f : α → Except ε β} {g : β → Except δ α} {xs : List α} {ys : List β}
    (done : xs.mapM f = .ok ys) (back : ∀ x ∈ xs, ∀ y, f x = .ok y → g y = .ok x) :
    ys.mapM g = .ok xs := by
  rw [mapM_eq_ok_iff] at done ⊢
  induction done with
  | nil => exact .nil
  | @cons x y xs ys first _ ih =>
      obtain ⟨backFirst, backRest⟩ := List.forall_mem_cons.mp back
      exact .cons (backFirst y first) (ih backRest)

theorem flatMap_of_mapM {γ : Type} {f : α → Except ε β} {xs : List α} {ys : List β}
    {parts : α → List γ} {parts' : β → List γ} (done : xs.mapM f = .ok ys)
    (same : ∀ x ∈ xs, ∀ y, f x = .ok y → parts' y = parts x) :
    ys.flatMap parts' = xs.flatMap parts := by
  induction mapM_eq_ok_iff.mp done with
  | nil => rfl
  | @cons x y xs ys first rest ih =>
      obtain ⟨sameFirst, sameRest⟩ := List.forall_mem_cons.mp same
      rw [List.flatMap_cons, List.flatMap_cons, sameFirst y first,
        ih (mapM_eq_ok_iff.mpr rest) sameRest]

def failure? : Except ε α → Option ε
  | .ok _ => none
  | .error e => some e

theorem failure?_eq_none_iff {x : Except ε α} : failure? x = none ↔ ∃ a, x = .ok a := by
  cases x <;> simp [failure?]

theorem failure?_eq_some_iff {x : Except ε α} {e : ε} : failure? x = some e ↔ x = .error e := by
  cases x <;> simp [failure?]

theorem failure?_map (f : α → β) (x : Except ε α) : failure? (x.map f) = failure? x := by
  cases x <;> rfl

theorem failure?_mapM (f : α → Except ε β) (xs : List α) :
    failure? (xs.mapM f) = xs.findSome? fun x => failure? (f x) := by
  induction xs with
  | nil => rfl
  | cons x xs ih =>
      rw [List.mapM_cons, List.findSome?_cons, ← ih]
      cases f x with
      | error e => rfl
      | ok y => cases xs.mapM f <;> rfl

theorem findSome?_eq_flatMap {γ : Type} {f : α → Option γ} {parts : α → List β} {g : β → Option γ}
    {xs : List α} (same : ∀ x ∈ xs, f x = (parts x).findSome? g) :
    xs.findSome? f = (xs.flatMap parts).findSome? g := by
  induction xs with
  | nil => rfl
  | cons x xs ih =>
      rw [List.flatMap_cons, List.findSome?_append, ← same x List.mem_cons_self,
        ← ih fun y member => same y (List.mem_cons_of_mem x member), List.findSome?_cons]
      cases f x <;> rfl

theorem findSomeM?_cases (f : α → Except ε (Option β)) (xs : List α) :
    ((∀ x ∈ xs, f x = .ok none) ∧ xs.findSomeM? f = .ok none) ∨
      ∃ before x after, xs = before ++ x :: after ∧ (∀ y ∈ before, f y = .ok none) ∧
        f x ≠ .ok none ∧ xs.findSomeM? f = f x := by
  induction xs with
  | nil => exact .inl ⟨List.forall_mem_nil _, rfl⟩
  | cons x xs ih =>
      by_cases passed : f x = .ok none
      · have skipped : (x :: xs).findSomeM? f = xs.findSomeM? f := by
          rw [List.findSomeM?_cons, passed]
          rfl
        rw [skipped]
        rcases ih with ⟨all, result⟩ | ⟨before, y, after, rfl, earlier, found, result⟩
        · exact .inl ⟨List.forall_mem_cons.mpr ⟨passed, all⟩, result⟩
        · exact .inr ⟨x :: before, y, after, rfl, List.forall_mem_cons.mpr ⟨passed, earlier⟩,
            found, result⟩
      · refine .inr ⟨[], x, xs, rfl, List.forall_mem_nil _, passed, ?_⟩
        rw [List.findSomeM?_cons]
        cases answer : f x with
        | error e => rfl
        | ok found =>
            cases found with
            | none => exact absurd answer passed
            | some y => rfl

end

end FormulaGrid
