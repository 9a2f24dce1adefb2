import FormulaGrid.Formula.Basic
import FormulaGrid.Table

/-!
A graph keeps two tables in step, what each registered formula reads and which names read each name.
`Graph.affected` searches the second one breadth-first.
-/

namespace FormulaGrid

structure Graph where
  reads : Table String (List String)
  readers : Table String (List String)

namespace Graph

def empty : Graph := ⟨.empty, .empty⟩

def readsOf (g : Graph) (name : String) : List String :=
  (g.reads.get? name).getD []

def readersOf (g : Graph) (name : String) : List String :=
  (g.readers.get? name).getD []

def dropReader (reader : String) (readers : Table String (List String)) (name : String) :
    Table String (List String) :=
  match readers.get? name with
  | none => readers
  | some list => readers.set name (list.filter (· ≠ reader))

def addReader (reader : String) (readers : Table String (List String)) (name : String) :
    Table String (List String) :=
  readers.set name (((readers.get? name).getD []).insert reader)

def add (g : Graph) (name : String) (f : Formula) : Graph :=
  let dropped := (g.readsOf name).foldl (dropReader name) g.readers
  ⟨g.reads.set name f.dependencies, f.dependencies.foldl (addReader name) dropped⟩

/-- A name whose readers should be listed, and are not. -/
structure Unlisted where
  name : String
  deriving DecidableEq, Repr

def takeReader (reader : String) (readers : Table String (List String)) (name : String) :
    Except Unlisted (Table String (List String)) :=
  match readers.get? name with
  | none => .error ⟨name⟩
  | some list => .ok (readers.set name (list.filter (· ≠ reader)))

/-- The graph in which a name has the given formula, if all that its old formula reads is listed. -/
def register (g : Graph) (name : String) (f : Formula) : Except Unlisted Graph := do
  let dropped ← (g.readsOf name).foldlM (takeReader name) g.readers
  return ⟨g.reads.set name f.dependencies, f.dependencies.foldl (addReader name) dropped⟩

def ofFormulas (formulas : List (String × Formula)) : Graph :=
  formulas.foldl (fun g entry => g.add entry.1 entry.2) empty

def registerAll (formulas : List (String × Formula)) : Except Unlisted Graph :=
  formulas.foldlM (fun g entry => g.register entry.1 entry.2) empty

/-- A search for readers under way: the names whose readers are still to be found, the names that
were ever among these, and the readers found. -/
structure Search where
  queue : List String
  visited : List String
  found : List String

namespace Search

def start (changed : List String) : Search :=
  ⟨changed, changed, []⟩

def find (s : Search) (reader : String) : Search :=
  if reader ∈ s.visited then ⟨s.queue, s.visited, s.found.insert reader⟩
  else ⟨s.queue ++ [reader], reader :: s.visited, s.found.insert reader⟩

def step (g : Graph) (s : Search) : Search :=
  match s.queue with
  | [] => s
  | name :: queue => (g.readersOf name).foldl find ⟨queue, s.visited, s.found⟩

def run (g : Graph) : Nat → Search → Search
  | 0, s => s
  | steps + 1, s => if s.queue.isEmpty then s else run g steps (s.step g)

end Search

def readerCount (g : Graph) : Nat :=
  (g.readers.entries.flatMap Prod.snd).length

/-- Every registered name that reads one of the changed names, directly or through others. A changed
name is among them only if it reads a changed name itself. -/
def affected (g : Graph) (changed : List String) : List String :=
  ((Search.start changed).run g (changed.length + g.readerCount)).found

end Graph

end FormulaGrid
