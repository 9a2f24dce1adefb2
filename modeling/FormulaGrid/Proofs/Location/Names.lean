import FormulaGrid.Proofs.CellNames
import FormulaGrid.Proofs.Ledger.Agreement
import FormulaGrid.Proofs.Location.Reading
import FormulaGrid.Proofs.Sheet.Health
import FormulaGrid.Template

namespace FormulaGrid.Location
open Text

variable {text : String} {l : Location}

theorem written_eq_ok_iff : l.written = .ok text ↔
    (Nat.toDigits 10 l.row).length ≤ maxDigits ∧ l.name = text := by
  rw [written, map_eq_ok]
  by_cases short : (Nat.toDigits 10 l.row).length ≤ maxDigits
  · have row : writeInteger l.row = .ok (Nat.toDigits 10 l.row) := writeInteger_of_length_le short
    simp [row, short, name]
  · have row : writeInteger l.row = .error .writing :=
      writeInteger_eq_error_iff.mpr ⟨rfl, Nat.lt_of_not_le short⟩
    simp [row, short]

theorem spells_name (l : Location) : Spells l.name l.letter (Nat.toDigits 10 l.row) := by
  have upper := (columnOf?_eq_some_iff.mp (columnOf?_letter l)).1
  exact spells_iff.mpr ⟨String.toList_ofList, upper, isDigits_toDigits l.row⟩

theorem checkedOfText?_of_written (done : l.written = .ok text) :
    checkedOfText? text = .ok (some l) := by
  obtain ⟨short, rfl⟩ := written_eq_ok_iff.mp done
  refine checkedOfText?_eq_some_iff.mpr ⟨_, _, spells_name l, short, columnOf?_letter l, ?_⟩
  rw [Nat.ofDigitChars_ten_toDigits]

theorem Spells.name_eq_iff {letter : Char} {digits : List Char} (h : Spells text letter digits)
    (named : columnOf? letter = some l.column) :
    l.name = text ↔ Nat.toDigits 10 l.row = digits := by
  have code := (columnOf?_eq_some_iff.mp named).2
  have same : l.letter = letter := by
    rw [← Char.toNat_inj, code, (columnOf?_eq_some_iff.mp (columnOf?_letter l)).2]
  rw [← String.toList_inj, h.split, (spells_name l).split, same, List.cons_inj_right]

theorem Spells.not_hasPaddedRow_iff {letter : Char} {digits : List Char}
    (h : Spells text letter digits) :
    ¬HasPaddedRow text ↔ ∀ rest, digits = '0' :: rest → rest = [] := by
  simp only [HasPaddedRow, h.split, List.cons.injEq]
  constructor
  · intro plain rest zero
    by_contra more
    exact plain ⟨letter, rest, ⟨rfl, zero⟩, more⟩
  · rintro plain ⟨_, rest, ⟨-, zero⟩, more⟩
    exact more (plain rest zero)

theorem written_of_read (read : checkedOfText? text = .ok (some l)) :
    l.written = .ok text ↔ ¬HasPaddedRow text := by
  obtain ⟨letter, digits, h, short, named, row⟩ := checkedOfText?_eq_some_iff.mp read
  have shown := toDigits_ofDigitChars_iff (spells_iff.mp h).2.2
  rw [written_eq_ok_iff, h.name_eq_iff named, h.not_hasPaddedRow_iff, ← shown, ← row]
  constructor
  · exact fun written => written.2
  · intro same
    exact ⟨by rw [same]; exact short, same⟩

theorem name_ne_of_denoted? {builtin : String} (free : denoted? builtin = none) (l : Location) :
    l.name ≠ builtin := by
  rintro rfl
  rw [denoted?_name] at free
  cases free

theorem denoted?_of_withBuiltin {t next : Template} {builtin : String} {f : Formula}
    (taken : t.withBuiltin builtin f = .ok next) : denoted? builtin = none := by
  unfold Template.withBuiltin at taken
  split at taken
  · cases taken
  · rw [denoted?_eq_none_iff]
    split at taken
    · assumption
    · cases taken
    · cases taken

theorem denoted?_of_create {grammar : Grammar} {builtins : Table String Formula}
    {background : Formula} {rows columns : Int} {s : Sheet}
    (created : Sheet.create grammar builtins background rows columns = .ok s) :
    ∀ builtin ∈ builtins.keys, denoted? builtin = none := by
  rw [← (Sheet.parts_of_create created).2.1]
  exact s.builtins_apart

/-- The name of a cell is read as that cell and as no other one, a text that is read as a cell is its name
if its row has no zeros in front, and no cell has the name of a built-in. -/
theorem cell_names_unambiguous :
    (∀ l : Location, (Nat.toDigits 10 l.row).length ≤ maxDigits →
      l.written = .ok l.name ∧ checkedOfText? l.name = .ok (some l)) ∧
    (∀ a b : Location, a.name = b.name → a = b) ∧
    (∀ text l, checkedOfText? text = .ok (some l) → (l.written = .ok text ↔ ¬HasPaddedRow text)) ∧
    (∀ (t next : Template) builtin f, t.withBuiltin builtin f = .ok next →
      ∀ l : Location, l.name ≠ builtin) ∧
    (∀ grammar builtins background rows columns s,
      Sheet.create grammar builtins background rows columns = .ok s →
        ∀ builtin ∈ builtins.keys, ∀ l : Location, l.name ≠ builtin) ∧
    ∀ grammar builtins background rows columns b,
      Ledger.create grammar builtins background rows columns = .ok b →
        ∀ builtin ∈ builtins.keys, ∀ l : Location, l.name ≠ builtin := by
  refine ⟨fun l short => ?_, fun a b same => name_injective same, fun text l => written_of_read,
    fun t next builtin f taken => name_ne_of_denoted? (denoted?_of_withBuiltin taken), ?_, ?_⟩
  · have done : l.written = .ok l.name := written_eq_ok_iff.mpr ⟨short, rfl⟩
    exact ⟨done, checkedOfText?_of_written done⟩
  · intro grammar builtins background rows columns s created builtin member
    exact name_ne_of_denoted? (denoted?_of_create created builtin member)
  · intro grammar builtins background rows columns b created builtin member
    obtain ⟨s, sheet, -⟩ := Ledger.exists_sheet_of_create created
    exact name_ne_of_denoted? (denoted?_of_create sheet builtin member)

theorem cell_names_unambiguous_padded : ∃ (l : Location) (builtins : Table String Formula),
    l = ⟨5, 1⟩ ∧ builtins = .ofList [("BB5", .reference "B05")] ∧
    (l.written = .ok "B5" ∧ checkedOfText? "B5" = .ok (some l)) ∧
    (∀ c : Location, c.name = "B5" → c = l) ∧
    (checkedOfText? "B05" = .ok (some l) ∧ HasPaddedRow "B05" ∧ l.written ≠ .ok "B05") ∧
    (∃ next, (Template.stock .empty).withBuiltin "BB5" (.reference "B05") = .ok next) ∧
    (∃ s, Sheet.create .stock builtins .empty 6 2 = .ok s) ∧
    (∃ b, Ledger.create .stock builtins .empty 6 2 = .ok b) ∧
    ∀ c : Location, c.name ≠ "BB5" := by
  let builtins : Table String Formula := .ofList [("BB5", .reference "B05")]
  let l : Location := ⟨5, 1⟩
  obtain ⟨named, distinct, canonical, -, sheet, -⟩ := cell_names_unambiguous
  have short : (Nat.toDigits 10 l.row).length ≤ maxDigits := by decide
  have name : l.name = "B5" := by decide
  have padded : checkedOfText? "B05" = .ok (some l) := by decide
  have zero : HasPaddedRow "B05" := ⟨'B', ['5'], rfl, by decide⟩
  have taken : ∃ next, (Template.stock .empty).withBuiltin "BB5" (.reference "B05") = .ok next :=
    ⟨_, rfl⟩
  have made : ∃ s, Sheet.create .stock builtins .empty 6 2 = .ok s := ⟨_, rfl⟩
  have kept : ∃ b, Ledger.create .stock builtins .empty 6 2 = .ok b := ⟨_, rfl⟩
  refine ⟨l, builtins, rfl, rfl, ?_, fun c same => ?_, ⟨padded, zero, ?_⟩, taken, made, kept, ?_⟩
  · rw [← name]
    exact named l short
  · exact distinct c l (same.trans name.symm)
  · exact fun written => (canonical _ _ padded).mp written zero
  · obtain ⟨s, created⟩ := made
    exact sheet _ _ _ _ _ _ created "BB5" (by decide)

end FormulaGrid.Location
