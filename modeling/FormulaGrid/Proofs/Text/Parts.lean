import FormulaGrid.Proofs.Text.Classes
import FormulaGrid.Proofs.Text.Trimming
import Mathlib.Data.List.Induction
import Mathlib.Data.List.TakeWhile

namespace FormulaGrid.Text

def trimmedParts (cuts : Char → Bool) (text : List Char) : List (List Char) :=
  (text.splitOnP cuts).map trim

variable {cuts : Char → Bool} {text before after part : List Char} {c : Char}

@[elab_as_elim]
theorem cutInduction (cuts : Char → Bool) {motive : List Char → Prop}
    (whole : ∀ text, (∀ c ∈ text, cuts c = false) → motive text)
    (cut : ∀ before c after, (∀ x ∈ before, cuts x = false) → cuts c = true → motive after →
      motive (before ++ c :: after)) (text : List Char) : motive text := by
  have split := text.takeWhile_append_dropWhile (p := fun c => !cuts c)
  have clean : ∀ c ∈ text.takeWhile fun c => !cuts c, cuts c = false := by
    intro c member
    simpa using List.mem_takeWhile_imp member
  cases rest : text.dropWhile fun c => !cuts c with
  | nil =>
      rw [rest, List.append_nil] at split
      exact whole text (split ▸ clean)
  | cons c after =>
      have shorter : after.length < text.length := by
        rw [← split, rest, List.length_append, List.length_cons]
        omega
      have here : cuts c = true := by
        have head := List.head_dropWhile_not (fun c => !cuts c) (l := text) (by simp [rest])
        simpa [rest] using head
      rw [rest] at split
      exact split ▸ cut _ c after clean here (cutInduction cuts whole cut after)
termination_by text.length

/-! ## Cutting -/

theorem trimmedParts_whole (none : ∀ c ∈ text, cuts c = false) :
    trimmedParts cuts text = [trim text] := by
  rw [trimmedParts, List.splitOnP_eq_singleton none]
  rfl

theorem trimmedParts_append_cons (here : cuts c = true) :
    trimmedParts cuts (before ++ c :: after) =
      trimmedParts cuts before ++ trimmedParts cuts after := by
  unfold trimmedParts
  rw [List.splitOnP_append_cons before after here, List.map_append]

theorem trimmedParts_cut (none : ∀ x ∈ before, cuts x = false) (here : cuts c = true) :
    trimmedParts cuts (before ++ c :: after) = trim before :: trimmedParts cuts after := by
  rw [trimmedParts_append_cons here, trimmedParts_whole none]
  rfl

theorem trimmedParts_ne_nil (cuts : Char → Bool) (text : List Char) :
    trimmedParts cuts text ≠ [] := by
  simp [trimmedParts]

theorem mem_of_mem_trimmedParts (member : part ∈ trimmedParts cuts text) (within : c ∈ part) :
    c ∈ text ∧ cuts c = false := by
  induction text using cutInduction cuts with
  | whole text none =>
      rw [trimmedParts_whole none, List.mem_singleton] at member
      subst member
      have within := mem_of_mem_trim within
      exact ⟨within, none c within⟩
  | cut before sep after none here ih =>
      rw [trimmedParts_cut none here, List.mem_cons] at member
      rcases member with rfl | member
      · have within := mem_of_mem_trim within
        exact ⟨List.mem_append_left _ within, none c within⟩
      · obtain ⟨within, away⟩ := ih member
        exact ⟨by simp [within], away⟩

theorem length_le_of_mem_trimmedParts (member : part ∈ trimmedParts cuts text) :
    part.length ≤ text.length := by
  induction text using cutInduction cuts with
  | whole text none =>
      rw [trimmedParts_whole none, List.mem_singleton] at member
      subst member
      exact length_trim_le text
  | cut before sep after none here ih =>
      rw [trimmedParts_cut none here, List.mem_cons] at member
      rw [List.length_append, List.length_cons]
      rcases member with rfl | member
      · have short := length_trim_le before
        omega
      · have short := ih member
        omega

theorem two_le_length_trimmedParts (member : c ∈ text) (here : cuts c = true) :
    2 ≤ (trimmedParts cuts text).length := by
  obtain ⟨before, after, rfl⟩ := List.append_of_mem member
  have some (text : List Char) : 0 < (trimmedParts cuts text).length :=
    List.length_pos_iff.mpr (trimmedParts_ne_nil cuts text)
  rw [trimmedParts_append_cons here, List.length_append]
  exact Nat.add_le_add (some before) (some after)

/-! ## Blanks -/

section
variable (visible : ∀ c, cuts c = true → isBlank c = false)
include visible

theorem cuts_eq_false_of_isBlank (blank : isBlank c = true) : cuts c = false := by
  rw [← Bool.not_eq_true]
  intro here
  rw [visible c here] at blank
  cases blank

theorem trimmedParts_cons_blank (blank : isBlank c = true) (text : List Char) :
    trimmedParts cuts (c :: text) = trimmedParts cuts text := by
  obtain ⟨first, rest, split⟩ := List.exists_cons_of_ne_nil (List.splitOnP_ne_nil cuts text)
  unfold trimmedParts
  rw [List.splitOnP_cons_eq_if_modifyHead, cuts_eq_false_of_isBlank visible blank, split]
  simp [trim_cons_blank blank]

theorem trimmedParts_append_blank (blank : isBlank c = true) (text : List Char) :
    trimmedParts cuts (text ++ [c]) = trimmedParts cuts text := by
  induction text using cutInduction cuts with
  | whole text none =>
      have away := cuts_eq_false_of_isBlank visible blank
      rw [trimmedParts_whole none, trimmedParts_whole, trim_append_blank blank]
      simpa [or_imp, forall_and, away] using none
  | cut before sep after none here ih =>
      rw [List.append_assoc, List.cons_append, trimmedParts_cut none here,
        trimmedParts_cut none here, ih]

theorem trimmedParts_between_blanks (first : ∀ c ∈ before, isBlank c = true)
    (last : ∀ c ∈ after, isBlank c = true) :
    trimmedParts cuts (before ++ text ++ after) = trimmedParts cuts text := by
  induction after using List.reverseRecOn with
  | nil =>
      rw [List.append_nil]
      induction before with
      | nil => rfl
      | cons c before ih =>
          rw [List.cons_append, trimmedParts_cons_blank visible (first c List.mem_cons_self)]
          exact ih fun x member => first x (List.mem_cons_of_mem c member)
  | append_singleton after c ih =>
      rw [← List.append_assoc, trimmedParts_append_blank visible (last c (by simp))]
      exact ih fun x member => last x (List.mem_append_left _ member)

theorem trimmedParts_trim (text : List Char) :
    trimmedParts cuts (trim text) = trimmedParts cuts text := by
  obtain ⟨before, after, split, first, last⟩ := eq_blanks_append_trim text
  conv_rhs => rw [split]
  rw [trimmedParts_between_blanks visible first last]

theorem trimmedParts_spaced (here : cuts c = true) :
    trimmedParts cuts (before ++ [' ', c, ' '] ++ after) =
      trimmedParts cuts before ++ trimmedParts cuts after := by
  have blank : isBlank ' ' = true := rfl
  rw [show before ++ [' ', c, ' '] ++ after = (before ++ [' ']) ++ c :: ' ' :: after by simp,
    trimmedParts_append_cons here, trimmedParts_append_blank visible blank,
    trimmedParts_cons_blank visible blank]

theorem trimmedParts_intercalate (here : cuts c = true) {texts : List (List Char)}
    (some : texts ≠ []) :
    trimmedParts cuts ([' ', c, ' '].intercalate texts) = texts.flatMap (trimmedParts cuts) := by
  induction texts with
  | nil => exact absurd rfl some
  | cons first rest ih =>
      cases rest with
      | nil => simp
      | cons next rest =>
          rw [List.intercalate_cons_cons, trimmedParts_spaced visible here, ih nofun,
            ← List.flatMap_cons]

end

end Text

open Text

/-! ## Pieces -/

def Op.parts (op : Op) (text : List Char) : List (List Char) :=
  trimmedParts (· == op.symbol) text

theorem Op.parts_eq (op : Op) (text : List Char) :
    op.parts text = (text.splitOn op.symbol).map trim := rfl

theorem pieces_eq (text : List Char) : pieces text = trimmedParts isSign text := rfl

theorem Op.visible_cuts (op : Op) (c : Char) (here : (c == op.symbol) = true) :
    isBlank c = false := by
  rw [eq_of_beq here]
  exact op.isBlank_symbol

theorem pieces_trim (text : List Char) : pieces (trim text) = pieces text :=
  trimmedParts_trim (fun _ => isBlank_of_isSign) text

theorem pieces_eq_flatMap (op : Op) (text : List Char) :
    pieces text = (op.parts text).flatMap pieces := by
  unfold Op.parts
  induction text using cutInduction (· == op.symbol) with
  | whole text none =>
      rw [trimmedParts_whole none, List.flatMap_singleton, pieces_trim]
  | cut before c after none here ih =>
      have sign : isSign c = true := by
        rw [eq_of_beq here]
        exact isSign_symbol op
      rw [trimmedParts_cut none here, List.flatMap_cons, ← ih, pieces_trim, pieces_eq,
        trimmedParts_append_cons sign]
      rfl

end FormulaGrid
