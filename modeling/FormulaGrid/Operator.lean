import FormulaGrid.Text.Quoted

namespace FormulaGrid
open Text

inductive Op where
  | equal
  | less
  | add
  | subtract
  | multiply
  | divide
  deriving DecidableEq, Repr

namespace Op

/-- Every operator, loosest binding first. -/
def all : List Op :=
  [equal, less, add, subtract, multiply, divide]

theorem mem_all (op : Op) : op ∈ all := by
  cases op <;> decide

/-! ## Signs -/

def symbol : Op → Char
  | equal => '='
  | less => '<'
  | add => '+'
  | subtract => '-'
  | multiply => '*'
  | divide => '/'

theorem symbol_inj {a b : Op} : a.symbol = b.symbol ↔ a = b := by
  cases a <;> cases b <;> decide

def text (op : Op) : String :=
  String.singleton op.symbol

def ofSymbol? (symbol : String) : Option Op :=
  all.find? (·.text = symbol)

theorem ofSymbol?_text (op : Op) : ofSymbol? op.text = some op := by
  cases op <;> rfl

def leastOperands : Op → Nat
  | less => 2
  | _ => 1

theorem leastOperands_pos (op : Op) : 0 < op.leastOperands := by
  cases op <;> decide

/-! ## Rules -/

inductive RuleError where
  | divisionByZero
  /-- The rule starts from a first operand and there is none. -/
  | noOperands
  deriving DecidableEq, Repr

def RuleError.message : RuleError → String
  | .divisionByZero => "division by zero"
  | .noOperands => "list index out of range"

def quotient (dividend divisor : Int) : Except RuleError Int :=
  if divisor = 0 then .error .divisionByZero else .ok (dividend.tdiv divisor)

def answer (holds : Bool) : Int :=
  if holds then 1 else 0

def ascending (numbers : List Int) : Bool :=
  (numbers.zip numbers.tail).all fun pair => pair.1 < pair.2

def apply : Op → List Int → Except RuleError Int
  | add, numbers => .ok (numbers.foldl (· + ·) 0)
  | multiply, numbers => .ok (numbers.foldl (· * ·) 1)
  | less, numbers => .ok (answer (ascending numbers))
  | subtract, first :: rest => .ok (rest.foldl (· - ·) first)
  | divide, first :: rest => rest.foldlM quotient first
  | equal, first :: rest => .ok (answer (rest.all (· = first)))
  | subtract, [] | divide, [] | equal, [] => .error .noOperands

/-! ## Rules looked up by sign -/

inductive ApplyError where
  | unknown (symbol : String)
  | rule (cause : RuleError)
  deriving DecidableEq, Repr

def ApplyError.message : ApplyError → String
  | .unknown symbol => quoted symbol
  | .rule cause => cause.message

def applySymbol (symbol : String) (numbers : List Int) : Except ApplyError Int :=
  match ofSymbol? symbol with
  | none => .error (.unknown symbol)
  | some op => (op.apply numbers).mapError .rule

end Op

end FormulaGrid
