import FormulaGrid.Table
import Mathlib.Data.List.Induction
import Mathlib.Data.List.Nodup

namespace FormulaGrid.Table
variable {κ β : Type} [DecidableEq κ] {key : κ} {value : β} {table : Table κ β}

theorem mem_entries_of_get? (entry : table.get? key = some value) :
    (key, value) ∈ table.entries := by
  obtain ⟨entries, nodup⟩ := table
  simp only [get?] at entry ⊢
  clear nodup
  induction entries with
  | nil => cases entry
  | cons first rest ih =>
      rw [lookup_entry_cons] at entry
      split at entry
      · rename_i same
        cases entry
        rw [same]
        exact List.mem_cons_self
      · exact List.mem_cons_of_mem first (ih entry)

theorem ofList_append_singleton (bindings : List (κ × β)) (key : κ) (value : β) :
    ofList (bindings ++ [(key, value)]) = (ofList bindings).set key value := by
  simp [ofList, List.foldl_append]

theorem mem_of_get?_ofList {bindings : List (κ × β)}
    (entry : (ofList bindings).get? key = some value) : (key, value) ∈ bindings := by
  induction bindings using List.reverseRecOn with
  | nil => cases entry
  | append_singleton bindings last ih =>
      rw [ofList_append_singleton, get?_set] at entry
      split at entry
      · rename_i same
        cases entry
        rw [same]
        exact List.mem_append_right _ (List.mem_singleton_self last)
      · exact List.mem_append_left _ (ih entry)

theorem isSome_get?_ofList {bindings : List (κ × β)} (member : (key, value) ∈ bindings) :
    ((ofList bindings).get? key).isSome := by
  induction bindings using List.reverseRecOn with
  | nil => cases member
  | append_singleton bindings last ih =>
      rw [ofList_append_singleton, get?_set]
      split
      · rfl
      · rename_i other
        rcases List.mem_append.mp member with earlier | same
        · exact ih earlier
        · cases List.mem_singleton.mp same
          exact absurd rfl other

omit [DecidableEq κ] in
theorem eq_of_entries {other : Table κ β} (same : table.entries = other.entries) :
    table = other := by
  cases table
  cases other
  cases same
  rfl

theorem entries_set : (table.set key value).entries = setEntry key value table.entries := rfl

theorem set_of_get? (entry : table.get? key = some value) : table.set key value = table := by
  apply eq_of_entries
  obtain ⟨entries, nodup⟩ := table
  simp only [set, get?] at entry ⊢
  clear nodup
  induction entries with
  | nil => cases entry
  | cons first rest ih =>
      rw [lookup_entry_cons] at entry
      rw [setEntry]
      split
      · rename_i same
        rw [if_pos same.symm] at entry
        cases entry
        rw [← same]
      · rename_i other
        rw [if_neg (Ne.symm other)] at entry
        rw [ih entry]

theorem setEntry_setEntry (entries : List (κ × β)) (before after : β) :
    setEntry key after (setEntry key before entries) = setEntry key after entries := by
  induction entries with
  | nil => simp [setEntry]
  | cons first rest ih =>
      by_cases same : first.1 = key
      · simp [setEntry, same]
      · simp [setEntry, same, ih]

theorem set_set (table : Table κ β) (before after : β) :
    (table.set key before).set key after = table.set key after :=
  eq_of_entries (setEntry_setEntry table.entries before after)

theorem set_set_of_get? (entry : table.get? key = some value) (between : β) :
    (table.set key between).set key value = table := by
  rw [set_set, set_of_get? entry]

theorem get?_eq_some_iff : table.get? key = some value ↔ (key, value) ∈ table.entries := by
  constructor
  · exact mem_entries_of_get?
  · intro member
    obtain ⟨entries, nodup⟩ := table
    simp only [get?] at member ⊢
    induction entries with
    | nil => cases member
    | cons first rest ih =>
        rw [List.map_cons, List.nodup_cons] at nodup
        rw [lookup_entry_cons]
        rcases List.mem_cons.mp member with rfl | later
        · exact if_pos rfl
        · rw [if_neg, ih nodup.2 later]
          rintro rfl
          exact nodup.1 (List.mem_map.mpr ⟨_, later, rfl⟩)

theorem get?_ofList_eq_some_iff {bindings : List (κ × β)}
    (nodup : (bindings.map Prod.fst).Nodup) :
    (ofList bindings).get? key = some value ↔ (key, value) ∈ bindings := by
  constructor
  · exact mem_of_get?_ofList
  · intro member
    obtain ⟨other, entry⟩ := Option.isSome_iff_exists.mp (isSome_get?_ofList member)
    have same := List.inj_on_of_nodup_map nodup (mem_of_get?_ofList entry) member rfl
    rw [entry, (Prod.mk.inj same).2]

section
variable {keys : List κ} {values : κ → β}

omit [DecidableEq κ] in
theorem keys_eq_of_entries (entries : table.entries = keys.map fun k => (k, values k)) :
    table.keys = keys := by
  rw [Table.keys, entries, List.map_map]
  exact List.map_id keys

theorem get?_of_entries (entries : table.entries = keys.map fun k => (k, values k))
    (member : key ∈ keys) : table.get? key = some (values key) := by
  rw [get?_eq_some_iff, entries]
  exact List.mem_map.mpr ⟨key, member, rfl⟩

theorem setEntry_of_mem (nodup : keys.Nodup) (member : key ∈ keys) :
    setEntry key value (keys.map fun k => (k, values k)) =
      keys.map fun k => (k, if k = key then value else values k) := by
  induction keys with
  | nil => cases member
  | cons first rest ih =>
      obtain ⟨new, nodup⟩ := List.nodup_cons.mp nodup
      rw [List.map_cons, List.map_cons, setEntry]
      by_cases same : first = key
      · subst same
        rw [if_pos rfl, if_pos rfl]
        congr 1
        apply List.map_congr_left
        intro k later
        rw [if_neg (by rintro rfl; exact new later)]
      · rw [if_neg same, if_neg same,
          ih nodup ((List.mem_cons.mp member).resolve_left (Ne.symm same))]

theorem entries_set_of_mem (entries : table.entries = keys.map fun k => (k, values k))
    (member : key ∈ keys) : (table.set key value).entries =
      keys.map fun k => (k, if k = key then value else values k) := by
  have nodup := table.keys_nodup
  rw [← Table.keys, keys_eq_of_entries entries] at nodup
  rw [entries_set, entries, setEntry_of_mem nodup member]

theorem setEntry_of_not_mem {entries : List (κ × β)} (new : key ∉ entries.map Prod.fst) :
    setEntry key value entries = entries ++ [(key, value)] := by
  induction entries with
  | nil => rfl
  | cons first rest ih =>
      rw [List.map_cons, List.mem_cons, not_or] at new
      rw [setEntry, if_neg (Ne.symm new.1), ih new.2]
      rfl

theorem entries_foldl_set (new : (table.keys ++ keys).Nodup) :
    (keys.foldl (fun t k => t.set k value) table).entries =
      table.entries ++ keys.map fun k => (k, value) := by
  induction keys generalizing table with
  | nil => simp
  | cons first rest ih =>
      have absent : first ∉ table.keys := by
        intro member
        exact (List.disjoint_of_nodup_append new) member List.mem_cons_self
      have appended : (table.set first value).keys = table.keys ++ [first] := by
        rw [keys_set, if_neg absent]
      rw [List.foldl_cons, ih, entries_set, setEntry_of_not_mem absent]
      · simp
      · rwa [appended, List.append_assoc]

end

theorem get?_foldl_set {α : Type} {entry : α → κ} {xs : List α} :
    (xs.foldl (fun t x => t.set (entry x) value) table).get? key =
      if ∃ x ∈ xs, entry x = key then some value else table.get? key := by
  induction xs generalizing table with
  | nil => simp
  | cons first rest ih =>
      rw [List.foldl_cons, ih, get?_set]
      simp only [List.exists_mem_cons_iff, eq_comm (a := key)]
      by_cases later : ∃ x ∈ rest, entry x = key
      · simp [later]
      · simp [later]

end FormulaGrid.Table
