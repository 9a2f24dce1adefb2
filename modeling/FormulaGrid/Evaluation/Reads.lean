import FormulaGrid.Evaluation

namespace FormulaGrid.Bindings

def Reads (bindings : Bindings) (reader name : String) : Prop :=
  ∃ f, bindings reader = some f ∧ name ∈ f.names ∧ (bindings name).isSome

/-- A name is met when a formula is followed through the bindings. -/
inductive Reaches (bindings : Bindings) : Formula → String → Prop
  | here {f : Formula} {name : String} : name ∈ f.names → Reaches bindings f name
  | through {f g : Formula} {via name : String} : via ∈ f.names → bindings via = some g →
      Reaches bindings g name → Reaches bindings f name

theorem Reaches.of_operand {bindings : Bindings} {op : Op} {operands : List Formula} {f : Formula}
    {name : String} (mem : f ∈ operands) (h : Reaches bindings f name) :
    Reaches bindings (.operator op operands) name := by
  have names {n : String} (hn : n ∈ f.names) : n ∈ (Formula.operator op operands).names := by
    rw [Formula.names_operator]
    exact List.mem_flatMap.2 ⟨f, mem, hn⟩
  cases h with
  | here hn => exact .here (names hn)
  | through hn hg h => exact .through (names hn) hg h

theorem Reaches.trans {bindings : Bindings} {f g : Formula} {via name : String}
    (h : Reaches bindings f via) (bound : bindings via = some g) (next : Reaches bindings g name) :
    Reaches bindings f name := by
  induction h with
  | here mem => exact .through mem bound next
  | through mem bound' _ ih => exact .through mem bound' (ih bound)

end FormulaGrid.Bindings
