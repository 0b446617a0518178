import BasicWorkbench.Diagnostics
import BasicWorkbench.LowerCase
import BasicWorkbench.OrderedMaps

namespace BasicWorkbench

inductive SymbolKind where
  | variable
  | subroutine
  deriving DecidableEq, Repr

/-- A name that a document defines: its spelling, the whole definition and the part to select, and
for a variable the type of its value. -/
structure Symbol where
  name : Text
  kind : SymbolKind
  span : Span
  selection : Span
  valueType : Option Text
  deriving DecidableEq, Repr

def Symbol.detail (s : Symbol) : Text :=
  match s.kind with
  | .subroutine => "Subroutine"
  | .variable => "Variable (" ++ s.valueType.getD "None" ++ ")"

/-- The names of a document, under their lower-case forms. -/
structure SymbolTable where
  knownVariables : OrderedMap Symbol
  knownSubroutines : OrderedMap Symbol
  deriving DecidableEq, Repr

namespace SymbolTable

def empty : SymbolTable := ⟨[], []⟩

/-- Records a variable. One that is known keeps all but its type. -/
def addVariable (table : SymbolTable) (s : Symbol) : SymbolTable :=
  let key := lower s.name
  let kept :=
    match table.knownVariables.find? key with
    | some known => { known with valueType := s.valueType }
    | none => s
  { table with knownVariables := table.knownVariables.insert key kept }

/-- Records a subroutine. One that is known keeps its place in the order alone. -/
def addSubroutine (table : SymbolTable) (s : Symbol) : SymbolTable :=
  { table with knownSubroutines := table.knownSubroutines.insert (lower s.name) s }

def lookup (table : SymbolTable) (name : Text) : Option Symbol :=
  (table.knownSubroutines.find? (lower name)).or (table.knownVariables.find? (lower name))

def symbols (table : SymbolTable) : List Symbol :=
  table.knownSubroutines.values ++ table.knownVariables.values

end SymbolTable

end BasicWorkbench
