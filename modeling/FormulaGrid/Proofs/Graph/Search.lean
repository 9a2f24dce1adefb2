import FormulaGrid.Graph
import FormulaGrid.Proofs.Tables
import Mathlib.Data.List.Basic
import Mathlib.Logic.Relation

/-!
# Searching a graph

What was ever queued is what changed or was found, and everything among it is still in the queue or has
all its readers found (`Search.Valid`). Each step takes a name from the queue for good or brings a
reader into it for the first time (`remaining`).
-/

namespace FormulaGrid.Graph
open Relation

def ReadBy (g : Graph) (reader name : String) : Prop :=
  reader ∈ g.readersOf name

def allReaders (g : Graph) : List String :=
  g.readers.entries.flatMap Prod.snd

variable {g : Graph} {changed readers queue : List String} {name reader : String}

theorem ReadBy.mem_allReaders (h : g.ReadBy reader name) : reader ∈ g.allReaders := by
  unfold ReadBy readersOf at h
  cases entry : g.readers.get? name with
  | none =>
      rw [entry] at h
      cases h
  | some readers =>
      rw [entry] at h
      exact List.mem_flatMap.mpr ⟨(name, readers), Table.mem_entries_of_get? entry, h⟩

namespace Search
variable {s : Search} {steps : Nat}

/-! ## Finding readers -/

theorem found_find : (s.find reader).found = s.found.insert reader := by
  unfold find
  split <;> rfl

theorem mem_visited_find : name ∈ (s.find reader).visited ↔ name ∈ s.visited ∨ name = reader := by
  unfold find
  split
  · rename_i before
    constructor
    · exact .inl
    · rintro (member | rfl)
      · exact member
      · exact before
  · simp [or_comm]

theorem mem_queue_find :
    name ∈ (s.find reader).queue ↔ name ∈ s.queue ∨ name = reader ∧ name ∉ s.visited := by
  unfold find
  split
  · rename_i before
    constructor
    · exact .inl
    · rintro (member | ⟨rfl, new⟩)
      · exact member
      · exact absurd before new
  · rename_i new
    rw [List.mem_append, List.mem_singleton]
    constructor
    · rintro (member | rfl)
      · exact .inl member
      · exact .inr ⟨rfl, new⟩
    · rintro (member | ⟨same, -⟩)
      · exact .inl member
      · exact .inr same

theorem mem_found_finds :
    name ∈ (readers.foldl find s).found ↔ name ∈ s.found ∨ name ∈ readers := by
  induction readers generalizing s with
  | nil => simp
  | cons first rest ih =>
      rw [List.foldl_cons, ih, found_find, List.mem_insert_iff, List.mem_cons]
      tauto

theorem mem_visited_finds :
    name ∈ (readers.foldl find s).visited ↔ name ∈ s.visited ∨ name ∈ readers := by
  induction readers generalizing s with
  | nil => simp
  | cons first rest ih =>
      rw [List.foldl_cons, ih, mem_visited_find, List.mem_cons]
      tauto

theorem mem_queue_finds : name ∈ (readers.foldl find s).queue ↔
    name ∈ s.queue ∨ name ∈ readers ∧ name ∉ s.visited := by
  induction readers generalizing s with
  | nil => simp
  | cons first rest ih =>
      rw [List.foldl_cons, ih, mem_queue_find, mem_visited_find, List.mem_cons]
      tauto

theorem nodup_found_finds (nodup : s.found.Nodup) : (readers.foldl find s).found.Nodup := by
  induction readers generalizing s with
  | nil => exact nodup
  | cons first rest ih =>
      rw [List.foldl_cons]
      apply ih
      rw [found_find]
      exact nodup.insert

theorem step_of_cons (first : s.queue = name :: queue) :
    s.step g = (g.readersOf name).foldl find ⟨queue, s.visited, s.found⟩ := by
  rw [step, first]

/-! ## What holds at any time -/

structure Valid (g : Graph) (changed : List String) (s : Search) : Prop where
  sound : ∀ name ∈ s.found, ∃ start ∈ changed, TransGen g.ReadBy name start
  nodup : s.found.Nodup
  visited : ∀ name, name ∈ s.visited ↔ name ∈ changed ∨ name ∈ s.found
  queued : ∀ name ∈ s.queue, name ∈ s.visited
  /-- What was queued still is, or all its readers are found. -/
  looked : ∀ name ∈ s.visited, name ∈ s.queue ∨ ∀ reader, g.ReadBy reader name → reader ∈ s.found

theorem Valid.start (g : Graph) (changed : List String) : (start changed).Valid g changed where
  sound := List.forall_mem_nil _
  nodup := List.nodup_nil
  visited name := by simp [Search.start]
  queued _ member := member
  looked _ member := .inl member

theorem Valid.chain (valid : s.Valid g changed) (member : name ∈ s.visited)
    (read : g.ReadBy reader name) : ∃ start ∈ changed, TransGen g.ReadBy reader start := by
  rcases (valid.visited name).mp member with begin | found
  · exact ⟨name, begin, .single read⟩
  · obtain ⟨start, begin, chain⟩ := valid.sound name found
    exact ⟨start, begin, .head read chain⟩

theorem Valid.step (valid : s.Valid g changed) : (s.step g).Valid g changed := by
  cases first : s.queue with
  | nil =>
      rw [Search.step, first]
      exact valid
  | cons name queue =>
      have here : name ∈ s.visited := valid.queued name (by rw [first]; exact List.mem_cons_self)
      rw [step_of_cons first]
      constructor
      · intro reader member
        rcases mem_found_finds.mp member with old | read
        · exact valid.sound reader old
        · exact valid.chain here read
      · exact nodup_found_finds valid.nodup
      · intro other
        rw [mem_visited_finds, mem_found_finds, valid.visited, or_assoc]
      · intro other member
        rw [mem_visited_finds]
        rcases mem_queue_finds.mp member with waiting | ⟨read, -⟩
        · exact .inl (valid.queued other (by rw [first]; exact List.mem_cons_of_mem name waiting))
        · exact .inr read
      · intro other member
        rw [mem_visited_finds] at member
        simp only [mem_queue_finds, mem_found_finds]
        by_cases before : other ∈ s.visited
        · rcases valid.looked other before with waiting | closed
          · rw [first] at waiting
            rcases List.mem_cons.mp waiting with rfl | waiting
            · exact .inr fun reader read => .inr read
            · exact .inl (.inl waiting)
          · exact .inr fun reader read => .inl (closed reader read)
        · exact .inl (.inr ⟨member.resolve_left before, before⟩)

theorem Valid.run (valid : s.Valid g changed) (steps : Nat) : (s.run g steps).Valid g changed := by
  induction steps generalizing s with
  | zero => exact valid
  | succ steps ih =>
      rw [Search.run]
      split
      · exact valid
      · exact ih valid.step

/-- When the queue is empty the readers are found, all of them and nothing else. -/
theorem Valid.mem_found_iff (valid : s.Valid g changed) (ended : s.queue = []) :
    name ∈ s.found ↔ ∃ start ∈ changed, TransGen g.ReadBy name start := by
  have closed : ∀ {name reader}, name ∈ changed ∨ name ∈ s.found → g.ReadBy reader name →
      reader ∈ s.found := by
    intro name reader member read
    rcases valid.looked name ((valid.visited name).mpr member) with waiting | all
    · rw [ended] at waiting
      cases waiting
    · exact all reader read
  refine ⟨valid.sound name, ?_⟩
  rintro ⟨start, begin, chain⟩
  induction chain using TransGen.head_induction_on with
  | single read => exact closed (.inl begin) read
  | head read _ ih => exact closed (.inr ih) read

/-! ## The end of the search -/

/-- The names in the queue and the readers that have never been in it. -/
def remaining (g : Graph) (s : Search) : Nat :=
  s.queue.length + (g.allReaders.filter (· ∉ s.visited)).length

theorem remaining_find_le (member : reader ∈ g.allReaders) :
    (s.find reader).remaining g ≤ s.remaining g := by
  unfold remaining find
  split
  · exact Nat.le_refl _
  · rename_i new
    have fewer : (g.allReaders.filter (· ∉ reader :: s.visited)).length <
        (g.allReaders.filter (· ∉ s.visited)).length := by
      have again : g.allReaders.filter (· ∉ reader :: s.visited) =
          (g.allReaders.filter (· ∉ s.visited)).filter (· ≠ reader) := by
        simp [List.filter_filter]
      rw [again, List.length_filter_lt_length_iff_exists]
      exact ⟨reader, List.mem_filter.mpr ⟨member, by simpa using new⟩, by simp⟩
    show (s.queue ++ [reader]).length + (g.allReaders.filter (· ∉ reader :: s.visited)).length ≤ _
    rw [List.length_append, List.length_singleton]
    omega

theorem remaining_finds_le (members : ∀ reader ∈ readers, reader ∈ g.allReaders) :
    (readers.foldl find s).remaining g ≤ s.remaining g := by
  induction readers generalizing s with
  | nil => exact Nat.le_refl _
  | cons first rest ih =>
      rw [List.foldl_cons]
      obtain ⟨member, others⟩ := List.forall_mem_cons.mp members
      exact Nat.le_trans (ih others) (remaining_find_le member)

theorem step_remaining_lt (some : s.queue ≠ []) : (s.step g).remaining g < s.remaining g := by
  obtain ⟨name, queue, first⟩ := List.exists_cons_of_ne_nil some
  have members : ∀ reader ∈ g.readersOf name, reader ∈ g.allReaders :=
    fun reader read => ReadBy.mem_allReaders read
  have readers := remaining_finds_le (s := ⟨queue, s.visited, s.found⟩) members
  rw [step_of_cons first]
  refine Nat.lt_of_le_of_lt readers ?_
  unfold remaining
  rw [first, List.length_cons]
  exact Nat.add_lt_add_right (Nat.lt_succ_self _) _

theorem queue_run (enough : s.remaining g ≤ steps) : (s.run g steps).queue = [] := by
  induction steps generalizing s with
  | zero =>
      apply List.length_eq_zero_iff.mp
      unfold remaining at enough
      rw [run]
      omega
  | succ steps ih =>
      rw [run]
      split
      · rename_i ended
        exact List.isEmpty_iff.mp ended
      · rename_i waiting
        have fewer := step_remaining_lt (g := g) (s := s) fun ended => waiting (by rw [ended]; rfl)
        exact ih (by omega)

theorem run_of_ended (ended : s.queue = []) : s.run g steps = s := by
  cases steps with
  | zero => rfl
  | succ steps => rw [run, if_pos (by rw [ended]; rfl)]

theorem run_add (first more : Nat) : s.run g (first + more) = (s.run g first).run g more := by
  induction first generalizing s with
  | zero => rw [Nat.zero_add, run]
  | succ first ih =>
      rw [Nat.succ_add, run, run]
      split
      · rename_i ended
        rw [run_of_ended (List.isEmpty_iff.mp ended)]
      · exact ih

theorem remaining_start_le :
    (start changed).remaining g ≤ changed.length + g.readerCount :=
  Nat.add_le_add_left (List.length_filter_le _ _) _

end Search

/-! ## Affected names -/

theorem queue_of_affected (g : Graph) (changed : List String) :
    ((Search.start changed).run g (changed.length + g.readerCount)).queue = [] :=
  Search.queue_run Search.remaining_start_le

theorem mem_affected_iff :
    name ∈ g.affected changed ↔ ∃ start ∈ changed, TransGen g.ReadBy name start :=
  ((Search.Valid.start g changed).run _).mem_found_iff (queue_of_affected g changed)

theorem nodup_affected (changed : List String) : (g.affected changed).Nodup :=
  ((Search.Valid.start g changed).run _).nodup

theorem run_of_enough {steps : Nat} (enough : changed.length + g.readerCount ≤ steps) :
    ((Search.start changed).run g steps).queue = [] ∧
      ((Search.start changed).run g steps).found = g.affected changed := by
  have ended := queue_of_affected g changed
  obtain ⟨more, rfl⟩ := Nat.exists_eq_add_of_le enough
  rw [Search.run_add, Search.run_of_ended ended]
  exact ⟨ended, rfl⟩

end FormulaGrid.Graph
