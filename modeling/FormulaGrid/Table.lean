namespace FormulaGrid

def setEntry {κ β : Type} [DecidableEq κ] (key : κ) (value : β) : List (κ × β) → List (κ × β)
  | [] => [(key, value)]
  | entry :: rest => if entry.1 = key then (key, value) :: rest else entry :: setEntry key value rest

section Entries
variable {κ β : Type} [DecidableEq κ] {key : κ} {value : β} {entries : List (κ × β)}

theorem map_fst_setEntry : (setEntry key value entries).map Prod.fst =
    if key ∈ entries.map Prod.fst then entries.map Prod.fst else entries.map Prod.fst ++ [key] := by
  induction entries with
  | nil => simp [setEntry]
  | cons entry rest ih =>
    by_cases h : entry.1 = key
    · simp [setEntry, h]
    · have h' : key ≠ entry.1 := fun e => h e.symm
      rw [setEntry, if_neg h, List.map_cons, ih]
      by_cases m : key ∈ rest.map Prod.fst <;> simp [h', m]

theorem nodup_setEntry (nodup : (entries.map Prod.fst).Nodup) :
    ((setEntry key value entries).map Prod.fst).Nodup := by
  rw [map_fst_setEntry]
  split
  · exact nodup
  · rename_i new
    exact List.nodup_append.2 ⟨nodup, by simp, by simpa using fun a b mem e => new (by grind)⟩

theorem lookup_entry_cons {k : κ} {entry : κ × β} : (entry :: entries).lookup k =
    if k = entry.1 then some entry.2 else entries.lookup k := by
  obtain ⟨key, value⟩ := entry
  rw [List.lookup_cons]
  by_cases h : k = key
  · simp [h]
  · simp [beq_eq_false_iff_ne.2 h, h]

theorem lookup_setEntry {k : κ} : (setEntry key value entries).lookup k =
    if k = key then some value else entries.lookup k := by
  induction entries with
  | nil => rw [setEntry, lookup_entry_cons]
  | cons entry rest ih =>
    rw [setEntry]
    split
    · rename_i h
      rw [lookup_entry_cons, lookup_entry_cons, h]
      split <;> rfl
    · rw [lookup_entry_cons, lookup_entry_cons, ih]
      grind

end Entries

structure Table (κ β : Type) where
  entries : List (κ × β)
  keys_nodup : (entries.map Prod.fst).Nodup

namespace Table
variable {κ β : Type} [DecidableEq κ]

def empty : Table κ β := ⟨[], List.nodup_nil⟩

def keys (t : Table κ β) : List κ :=
  t.entries.map Prod.fst

def get? (t : Table κ β) (key : κ) : Option β :=
  t.entries.lookup key

def set (t : Table κ β) (key : κ) (value : β) : Table κ β :=
  ⟨setEntry key value t.entries, nodup_setEntry t.keys_nodup⟩

/-- The table with the given bindings, of which the last one for a key counts. -/
def ofList (bindings : List (κ × β)) : Table κ β :=
  bindings.foldl (fun t b => t.set b.1 b.2) empty

@[simp] theorem get?_empty (key : κ) : (empty : Table κ β).get? key = none := rfl

theorem get?_set (t : Table κ β) (key k : κ) (value : β) :
    (t.set key value).get? k = if k = key then some value else t.get? k :=
  lookup_setEntry

theorem keys_set (t : Table κ β) (key : κ) (value : β) :
    (t.set key value).keys = if key ∈ t.keys then t.keys else t.keys ++ [key] :=
  map_fst_setEntry

theorem mem_keys_iff {t : Table κ β} {key : κ} : key ∈ t.keys ↔ (t.get? key).isSome := by
  obtain ⟨entries, nodup⟩ := t
  simp only [keys, get?]
  clear nodup
  induction entries with
  | nil => simp
  | cons entry rest ih =>
    rw [List.map_cons, List.mem_cons, ih, lookup_entry_cons]
    by_cases h : key = entry.1 <;> simp [h]

end Table

end FormulaGrid
