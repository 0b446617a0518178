import BasicWorkbench.NumberText
import BasicWorkbench.Symbols
import BasicWorkbench.TextCuts

namespace BasicWorkbench

inductive ValueType where
  | string
  | boolean
  | number
  | variable
  deriving DecidableEq, Repr

def ValueType.word : ValueType → Text
  | .string => "string"
  | .boolean => "boolean"
  | .number => "number"
  | .variable => "variable"

/-- Text between double quotes; the two quotes may not be one. -/
def isQuotedLiteral (s : Text) : Bool := 2 ≤ s.length && s.head? == some '"' && s.getLast? == some '"'

def isTruthLiteral (s : Text) : Bool := asciiLower s == "true".toList || asciiLower s == "false".toList

def ValueType.ofLiteral (value : Text) : ValueType :=
  let s := trim value
  if isQuotedLiteral s then .string
  else if isTruthLiteral s then .boolean
  else if isNumberLiteral s then .number
  else .variable

def wholeLine? (s : Text) : Option Text :=
  match s.takeWhile inLine with
  | [] => none
  | line => if atEnd (s.dropWhile inLine) then some line else none

/-- The value behind an equals sign. As many blanks as can be are passed over, but the value keeps
one character. -/
def assignedValue? (s : Text) : Option Text :=
  (((restsAfter isBlank s).reverse ++ [s]).findSome? wholeLine?)

/-- An assignment to a variable: its column, its name and the value. -/
structure Assignment where
  column : Nat
  name : Text
  value : Text
  deriving DecidableEq, Repr

def assignmentOn? (line : Text) : Option Assignment :=
  match trimStart line with
  | [] => none
  | c :: rest =>
    if isAsciiLetter c then
      match trimStart (rest.dropWhile isNameChar) with
      | '=' :: after => (assignedValue? after).map fun value =>
          ⟨line.length - (c :: rest).length, c :: rest.takeWhile isNameChar, value⟩
      | _ => none
    else none

structure SubroutineStart where
  column : Nat
  name : Text
  deriving DecidableEq, Repr

def subroutineStartOn? (line : Text) : Option SubroutineStart := do
  let body := trimStart line
  let named ← (dropWord? "sub" body).bind dropBlanks?
  let name ← takeName? isAsciiLetter named
  if (named.drop name.length).all isBlank then some ⟨line.length - body.length, name⟩ else none

def endsSubroutine (line : Text) : Bool :=
  match dropWord? "endsub" (trimStart line) with
  | some rest => rest.all isBlank
  | none => false

def Assignment.symbol (a : Assignment) (line : Nat) : Symbol :=
  let span := Span.onLine line a.column (a.column + a.name.length)
  ⟨a.name, .variable, span, span, some (ValueType.ofLiteral a.value).word⟩

def SubroutineStart.symbol (s : SubroutineStart) (first last : Nat) (lastLine : Text) : Symbol where
  name := s.name
  kind := .subroutine
  span := ⟨⟨first, s.column⟩, ⟨last, lastLine.length⟩⟩
  selection := .onLine first s.column (s.column + 4 + s.name.length)
  valueType := none

/-- Adds the symbols of the lines from a number on; `started` is the subroutine begun before, with
its line. -/
def collectFrom (table : SymbolTable) (started : Option (SubroutineStart × Nat)) (number : Nat) :
    List Text → SymbolTable
  | [] => table
  | line :: lines =>
    let table :=
      match assignmentOn? line with
      | some a => table.addVariable (a.symbol number)
      | none => table
    match subroutineStartOn? line with
    | some s => collectFrom table (some (s, number)) (number + 1) lines
    | none =>
      match started with
      | some (s, first) =>
        if endsSubroutine line then
          collectFrom (table.addSubroutine (s.symbol first number line)) none (number + 1) lines
        else collectFrom table started (number + 1) lines
      | none => collectFrom table none (number + 1) lines

/-- Adds the variables and subroutines that the lines of a document define. A subroutine counts once
its end is seen. -/
def SymbolTable.collect (table : SymbolTable) (lines : List Text) : SymbolTable :=
  collectFrom table none 0 lines

end BasicWorkbench
