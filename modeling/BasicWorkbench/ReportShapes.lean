import BasicWorkbench.Text
import BasicWorkbench.Problems
import BasicWorkbench.TextCuts
import BasicWorkbench.WordChars

namespace BasicWorkbench

/-- What a line of compiler output tells: a message and the digits of a line and a column. -/
structure Sighting where
  message : Text
  line : Option Text
  column : Option Text
  deriving DecidableEq, Repr

def readNumber (digits : Text) : Except Fault Int :=
  match readDigits digits with
  | .ok n => .ok n
  | .error count => .error (.tooManyDigits count)

def Sighting.problem (s : Sighting) : Except Fault Problem := do
  let line ← s.line.mapM readNumber
  let column ← s.column.mapM readNumber
  Problem.ofParts s.message line column

/-- A message behind one or more blanks, up to the end of its line; `finish` judges what follows. As
many blanks as can be are passed over, but the message keeps one character. -/
def messageAfterBlanks? (finish : Text → Bool) (s : Text) : Option Text :=
  (restsAfter isBlank s).reverse.findSome? fun rest =>
    match rest.takeWhile inLine with
    | [] => none
    | message => if finish (rest.dropWhile inLine) then some message else none

def openMessage? (s : Text) : Option Text := messageAfterBlanks? (fun _ => true) s

def blanksAndWord? (word s : Text) : Option Text := (dropBlanks? s).bind (dropWord? word)

def blanksAndDigits? (s : Text) : Option (Text × Text) := (dropBlanks? s).bind takeDigits?

def atLine? (s : Text) : Option (Text × Text) := do
  let s ← blanksAndWord? "at" s
  let s ← blanksAndWord? "line" s
  blanksAndDigits? s

def dropOptional (c : Char) : Text → Text
  | [] => []
  | d :: s => if d = c then s else d :: s

def columnNote? (s : Text) : Option Text := do
  let s ← dropWord? "column" (trimStart (dropOptional ',' s))
  let (digits, _) ← blanksAndDigits? s
  some digits

/-- "Error: message at line 3, column 4", the column or not. The message is as short as can be. -/
def errorAtLine? : Text → Option Sighting :=
  leftmost fun s => do
    let s ← dropWord? "error:" s
    (restsAfter isBlank s).reverse.findSome? fun told =>
      (restsAfter inLine told).findSome? fun rest => do
        let (line, after) ← atLine? rest
        some ⟨before told rest, some line, columnNote? after⟩

/-- "Line 3: message". -/
def lineMessage? : Text → Option Sighting :=
  leftmost fun s => do
    let s ← dropWord? "line" s
    let (line, s) ← blanksAndDigits? s
    let s ← dropWord? ":" s
    let message ← openMessage? s
    some ⟨message, some line, none⟩

def errorsAndStop? (s : Text) : Option Text := do
  let s ← blanksAndWord? "error" s
  dropWord? "." ((dropWord? "s" s).getD s)

/-- A count in ASCII digits without a leading zero, and what follows. -/
def takeCount? (s : Text) : Option (Text × Text) :=
  match s.takeWhile Char.isDigit with
  | [] => none
  | c :: digits => if c = '0' then none else some (c :: digits, s.dropWhile Char.isDigit)

/-- The count of ": 3 errors." where the text ends with it. -/
def errorCount? (s : Text) : Option Text := do
  let s ← dropWord? ":" s
  let s ← dropBlanks? s
  let (count, s) ← takeCount? s
  let s ← errorsAndStop? s
  if atEnd s then some count else none

def summaryCount? (s : Text) : Option Text := (restsAfter inLine s).findSome? errorCount?

/-- "name: 3 errors." at the end of the text. -/
def countSummary? (s : Text) : Option Sighting :=
  (leftmost summaryCount? s).map fun count => ⟨"File contains " ++ count ++ " errors", none, none⟩

/-- "Syntax error at line 3: message", the line, the colon and the message or not. -/
def syntaxError? : Text → Option Sighting :=
  leftmost fun s => do
    let s ← dropWord? "syntax" s
    let s ← blanksAndWord? "error" s
    let (line, s) := match atLine? s with
      | some (line, rest) => (some line, rest)
      | none => (none, s)
    let message := (openMessage? (dropOptional ':' s)).getD "Invalid syntax"
    some ⟨"Syntax error: " ++ message, line, none⟩

/-- "Error: message". -/
def errorMessage? : Text → Option Sighting :=
  leftmost fun s => do
    let s ← dropWord? "error:" s
    let message ← openMessage? s
    some ⟨message, none, none⟩

/-- The five shapes that name a problem on any line. -/
inductive ReportShape where
  | errorAtLine
  | lineMessage
  | countSummary
  | syntaxError
  | errorMessage
  deriving DecidableEq, Repr

def ReportShape.all : List ReportShape :=
  [.errorAtLine, .lineMessage, .countSummary, .syntaxError, .errorMessage]

def ReportShape.sighting? : ReportShape → Text → Option Sighting
  | .errorAtLine => errorAtLine?
  | .lineMessage => lineMessage?
  | .countSummary => countSummary?
  | .syntaxError => syntaxError?
  | .errorMessage => errorMessage?

def ReportShape.problem? (shape : ReportShape) (line : Text) : Except Fault (Option Problem) :=
  (shape.sighting? line).mapM Sighting.problem

end BasicWorkbench
