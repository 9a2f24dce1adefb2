import FormulaGrid.Sheet.Show

namespace FormulaGrid
open Text

structure Template where
  grammar : Grammar
  background : Formula
  builtins : Table String Formula

inductive BuiltinError where
  | emptyName
  | location (name : String)
  | digits (limit : DigitLimit)
  deriving DecidableEq, Repr

def BuiltinError.message : BuiltinError → String
  | .emptyName => "Built-in identifier must be non-empty"
  | .location name => "Identifier " ++ quoted name ++ " cannot be a valid cell location reference"
  | .digits limit => limit.message

inductive TemplateError where
  | builtin (e : BuiltinError)
  | setup (e : SetupError)
  deriving DecidableEq, Repr

def TemplateError.message : TemplateError → String
  | .builtin e => e.message
  | .setup e => e.message

namespace Template

def stock (background : Formula) : Template :=
  ⟨.stock, background, .empty⟩

def withBuiltin (t : Template) (name : String) (f : Formula) : Except BuiltinError Template :=
  if name = "" then .error .emptyName
  else
    match Location.ofText? name with
    | .ok none => .ok { t with builtins := t.builtins.set name f }
    | .ok (some _) => .error (.location name)
    | .error limit => .error (.digits limit)

def withBuiltins (t : Template) (builtins : Table String Formula) : Except BuiltinError Template :=
  builtins.entries.foldlM (fun t entry => t.withBuiltin entry.1 entry.2) t

def sheet (t : Template) (rows columns : Int) : Except SetupError Sheet :=
  Sheet.create t.grammar t.builtins t.background rows columns

def summary (t : Template) : String :=
  "<SheetBuilder builtins=" ++ nameList t.builtins.keys ++ ">"

end Template

def Sheet.ofBuiltins (builtins : Table String Formula) (background : Formula) (rows columns : Int) :
    Except TemplateError Sheet := do
  let t ← ((Template.stock background).withBuiltins builtins).mapError .builtin
  (t.sheet rows columns).mapError .setup

end FormulaGrid
