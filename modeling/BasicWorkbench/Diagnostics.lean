import BasicWorkbench.Blocks
import BasicWorkbench.Problems

namespace BasicWorkbench

/-- A place in a document, both numbers from zero. -/
structure Position where
  line : Nat
  character : Nat
  deriving DecidableEq, Repr

structure Span where
  start : Position
  stop : Position
  deriving DecidableEq, Repr

def Span.onLine (line first last : Nat) : Span := ⟨⟨line, first⟩, ⟨line, last⟩⟩

def checkField (field : PositionField) (value : Int) : Except Fault Nat :=
  if 0 ≤ value ∧ value ≤ positionLimit then .ok value.toNat else .error (.outOfRange field value)

def Position.checked (line character : Int) : Except Fault Position := do
  let line ← checkField .line line
  let character ← checkField .character character
  .ok ⟨line, character⟩

def Span.checkedOnLine (line first last : Int) : Except Fault Span := do
  let start ← Position.checked line first
  let stop ← Position.checked line last
  .ok ⟨start, stop⟩

/-- Who found a diagnosed error: the block check or the compiler. -/
inductive DiagnosticOrigin where
  | blockCheck
  | compiler
  deriving DecidableEq, Repr

def DiagnosticOrigin.name : DiagnosticOrigin → Text
  | .blockCheck => "smallbasic"
  | .compiler => "smallbasic-compiler"

structure Diagnostic where
  span : Span
  message : Text
  origin : DiagnosticOrigin
  deriving DecidableEq, Repr

def BlockOpener.complaint (b : BlockOpener) : Text :=
  let subject : Text :=
    match b.name with
    | some name => "Subroutine '" ++ name ++ "'"
    | none => "'" ++ b.kind.opener ++ "' statement"
  subject ++ " is missing a matching '" ++ b.kind.closer ++ "'"

def BlockOpener.diagnostic (b : BlockOpener) : Diagnostic :=
  ⟨.onLine b.line b.column b.endColumn, b.complaint, .blockCheck⟩

def blockDiagnostics (lines : List Text) : List Diagnostic :=
  (unclosedBlocks lines).map BlockOpener.diagnostic

/-- A number that counts from one, counted from zero; what is missing or too small is zero. -/
def fromZero (n : Option Int) : Nat := ((n.getD 0) - 1).toNat

/-- The width underlined for a problem of the compiler, which gives no length. -/
def underlineWidth : Nat := 10

def Problem.diagnostic (p : Problem) : Except Fault Diagnostic := do
  let line := fromZero p.line?
  let character := fromZero p.column?
  let span ← Span.checkedOnLine line character (character + underlineWidth)
  .ok ⟨span, p.message, .compiler⟩

def problemDiagnostics (problems : List Problem) : Except Fault (List Diagnostic) :=
  problems.mapM Problem.diagnostic

def limitDiagnostics (limit : Int) (diagnostics : List Diagnostic) : List Diagnostic :=
  diagnostics.take limit.toNat

end BasicWorkbench
