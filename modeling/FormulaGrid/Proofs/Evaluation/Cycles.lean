import FormulaGrid.Proofs.Evaluation.Follows
import Mathlib.Data.List.Cycle
import Mathlib.Logic.Relation

namespace FormulaGrid
open Relation

namespace Bindings
variable {bindings : Bindings}

def IsCycle (bindings : Bindings) (names : Cycle String) : Prop :=
  names ≠ .nil ∧ names.Chain bindings.Reads

def Acyclic (bindings : Bindings) : Prop :=
  ∀ names, ¬bindings.IsCycle names

theorem IsCycle.reads_itself {names : Cycle String} (cycle : bindings.IsCycle names)
    {name : String} (member : name ∈ names) : TransGen bindings.Reads name name := by
  have chain : names.Chain (TransGen bindings.Reads) := cycle.2.imp fun _ _ read => .single read
  exact Cycle.chain_iff_pairwise.mp chain name member name member

theorem exists_isCycle {name : String} (chain : TransGen bindings.Reads name name) :
    ∃ names, bindings.IsCycle names ∧ name ∈ names := by
  obtain ⟨last, rest, read⟩ := TransGen.tail'_iff.mp chain
  obtain ⟨names, path, ends⟩ := List.exists_isChain_cons_of_relationReflTransGen rest
  refine ⟨(name :: names : List String), ⟨by simp, ?_⟩, by simp⟩
  rw [Cycle.chain_coe_cons, ← List.cons_append]
  refine path.append (.singleton name) fun x final y first => ?_
  rw [List.getLast?_eq_getLast_of_ne_nil (List.cons_ne_nil _ _), ends, Option.mem_some] at final
  rw [List.head?_cons, Option.mem_some] at first
  rwa [← final, ← first]

theorem IsCycle.congr {other : Bindings} {names : Cycle String} (cycle : bindings.IsCycle names)
    (same : ∀ name ∈ names, bindings name = other name) : other.IsCycle names := by
  obtain ⟨nonempty, chain⟩ := cycle
  refine ⟨nonempty, ?_⟩
  induction names with
  | nil => exact absurd rfl nonempty
  | cons first rest =>
      rw [Cycle.chain_coe_cons] at chain ⊢
      have member : ∀ name ∈ first :: (rest ++ [first]), name ∈ (first :: rest : Cycle String) := by
        simp [or_comm]
      refine chain.imp_of_mem_imp fun reader name reads read => ?_
      rintro ⟨f, found, names, bound⟩
      rw [same reader (member reader reads)] at found
      rw [same name (member name read)] at bound
      exact ⟨f, found, names, bound⟩

theorem acyclic_of_no_names (quiet : ∀ name f, bindings name = some f → f.names = []) :
    bindings.Acyclic := by
  intro names cycle
  obtain ⟨name, member⟩ : ∃ name, name ∈ names := by
    induction names with
    | nil => exact absurd rfl cycle.1
    | cons first rest => exact ⟨first, by simp⟩
  obtain ⟨_, ⟨f, found, reads, -⟩, -⟩ := TransGen.head'_iff.mp (cycle.reads_itself member)
  rw [quiet name f found] at reads
  cases reads

theorem reaches_of_reads {name next : String} {f : Formula} (bound : bindings name = some f)
    (chain : TransGen bindings.Reads name next) : bindings.Reaches f next := by
  induction chain using TransGen.head_induction_on generalizing f with
  | single read =>
      obtain ⟨g, found, member, -⟩ := read
      rw [bound] at found
      cases found
      exact .here member
  | head read _ ih =>
      obtain ⟨g, found, member, isSome⟩ := read
      rw [bound] at found
      cases found
      obtain ⟨h, found⟩ := Option.isSome_iff_exists.mp isSome
      exact .through member found (ih found)

theorem reads_of_reaches {name next : String} {f : Formula} (bound : bindings name = some f)
    (reached : bindings.Reaches f next) (isSome : (bindings next).isSome) :
    TransGen bindings.Reads name next := by
  induction reached generalizing name with
  | here member => exact .single ⟨_, bound, member, isSome⟩
  | @through f g via next member found _ ih =>
      exact .head ⟨f, bound, member, by rw [found]; rfl⟩ (ih found isSome)

end Bindings

theorem not_reads_itself_of_ok {bindings : Bindings} {limit : Nat} {f : Formula} {value : Value}
    (done : valueWithin bindings limit f = .ok value) {name : String}
    (reached : bindings.Reaches f name) : ¬TransGen bindings.Reads name name := by
  intro chain
  obtain ⟨_, ⟨g, found, -⟩, -⟩ := TransGen.head'_iff.mp chain
  obtain ⟨deep, plain⟩ := exists_plain_of_ok done
  obtain ⟨_, above, _, -, -, inside⟩ := evaluated_of_reaches plain reached found
  have again := Bindings.reaches_of_reads found chain
  have away := not_mem_path_of_ok inside again (by rw [found]; rfl)
  exact away List.mem_cons_self

end FormulaGrid
