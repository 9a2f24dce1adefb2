import FormulaGrid.Text.Blank
import Mathlib.Data.List.DropRight

namespace FormulaGrid.Text

variable {text before after : List Char} {c : Char}

theorem trimEnd_eq (text : List Char) : trimEnd text = text.rdropWhile isBlank := rfl

theorem exists_mem_not_blank (text : List Char) :
    (∀ c ∈ text, isBlank c = true) ∨
      ∃ before c after, text = before ++ c :: after ∧ isBlank c = false := by
  by_cases blank : ∀ c ∈ text, isBlank c = true
  · exact .inl blank
  · simp only [not_forall, Bool.not_eq_true] at blank
    obtain ⟨c, member, visible⟩ := blank
    obtain ⟨before, after, split⟩ := List.append_of_mem member
    exact .inr ⟨before, c, after, split, visible⟩

theorem trimStart_append_cons (visible : isBlank c = false) :
    trimStart (before ++ c :: after) = trimStart before ++ c :: after := by
  unfold trimStart
  rw [List.dropWhile_append]
  split
  · rename_i nothing
    rw [List.isEmpty_iff.mp nothing, List.dropWhile_cons_of_neg (by simp [visible]),
      List.nil_append]
  · rfl

theorem trimEnd_append_cons (visible : isBlank c = false) :
    trimEnd (before ++ c :: after) = before ++ c :: trimEnd after := by
  have start : trimStart (after.reverse ++ c :: before.reverse) =
      trimStart after.reverse ++ c :: before.reverse := trimStart_append_cons visible
  unfold trimStart at start
  unfold trimEnd
  simp [start]

theorem trimStart_eq_nil_iff : trimStart text = [] ↔ ∀ c ∈ text, isBlank c = true :=
  List.dropWhile_eq_nil_iff

theorem trimEnd_eq_nil_iff : trimEnd text = [] ↔ ∀ c ∈ text, isBlank c = true :=
  List.rdropWhile_eq_nil_iff

theorem trimEnd_trimStart (text : List Char) :
    trimEnd (trimStart text) = trimStart (trimEnd text) := by
  rcases exists_mem_not_blank text with blank | ⟨before, c, after, rfl, visible⟩
  · rw [trimStart_eq_nil_iff.mpr blank, trimEnd_eq_nil_iff.mpr blank]
    rfl
  · rw [trimStart_append_cons visible, trimEnd_append_cons visible, trimEnd_append_cons visible,
      trimStart_append_cons visible]

theorem trim_append_cons (visible : isBlank c = false) :
    trim (before ++ c :: after) = trimStart before ++ c :: trimEnd after := by
  rw [trim, trimStart_append_cons visible, trimEnd_append_cons visible]

@[simp] theorem trim_trim (text : List Char) : trim (trim text) = trim text := by
  have start : trimStart (trimStart text) = trimStart text := List.dropWhile_idempotent _ _
  have finish (text : List Char) : trimEnd (trimEnd text) = trimEnd text :=
    List.rdropWhile_idempotent _ _
  unfold trim
  rw [← trimEnd_trimStart, start, finish]

theorem trim_cons_blank (blank : isBlank c = true) (text : List Char) :
    trim (c :: text) = trim text := by
  unfold trim trimStart
  rw [List.dropWhile_cons_of_pos blank]

theorem trim_append_blank (blank : isBlank c = true) (text : List Char) :
    trim (text ++ [c]) = trim text := by
  unfold trim
  rw [trimEnd_trimStart, trimEnd_trimStart, trimEnd_eq, List.rdropWhile_concat_pos _ _ _ blank]
  rfl

theorem eq_blanks_append_trim (text : List Char) :
    ∃ before after, text = before ++ trim text ++ after ∧
      (∀ c ∈ before, isBlank c = true) ∧ ∀ c ∈ after, isBlank c = true := by
  refine ⟨text.takeWhile isBlank, (trimStart text).rtakeWhile isBlank, ?_,
    fun c => List.mem_takeWhile_imp, fun c => List.mem_rtakeWhile_imp⟩
  rw [List.append_assoc, trim, trimEnd_eq, List.rdropWhile_append_rtakeWhile, trimStart,
    List.takeWhile_append_dropWhile]

theorem mem_of_mem_trim (member : c ∈ trim text) : c ∈ text := by
  obtain ⟨before, after, split, -⟩ := eq_blanks_append_trim text
  rw [split]
  simp [member]

theorem length_trim_le (text : List Char) : (trim text).length ≤ text.length := by
  obtain ⟨before, after, split, -⟩ := eq_blanks_append_trim text
  conv_rhs => rw [split]
  simp only [List.length_append]
  omega

theorem mem_trim_iff (visible : isBlank c = false) : c ∈ trim text ↔ c ∈ text := by
  refine ⟨mem_of_mem_trim, fun member => ?_⟩
  obtain ⟨before, after, rfl⟩ := List.append_of_mem member
  rw [trim_append_cons visible]
  simp

theorem trim_eq_self (visible : ∀ c ∈ text, isBlank c = false) : trim text = text := by
  obtain ⟨before, after, split, first, last⟩ := eq_blanks_append_trim text
  have none {blanks : List Char} (within : blanks ⊆ text)
      (blank : ∀ c ∈ blanks, isBlank c = true) : blanks = [] := by
    refine List.eq_nil_iff_forall_not_mem.mpr fun c member => ?_
    have invisible := blank c member
    rw [visible c (within member)] at invisible
    cases invisible
  rw [none (by rw [split]; simp) first, none (by rw [split]; simp) last] at split
  simpa using split.symm

end FormulaGrid.Text
