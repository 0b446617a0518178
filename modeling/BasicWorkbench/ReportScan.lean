import BasicWorkbench.Problems
import BasicWorkbench.ReportShapes
import BasicWorkbench.Text
import BasicWorkbench.TextLines

namespace BasicWorkbench

/-- Whether a trimmed line starts like an If statement and has no Then. -/
def lacksThen (line : Text) : Bool :=
  "if".toList.isPrefixOf (asciiLower line) && !occursIn "then" (asciiLower line)

/-- Whether a trimmed line that is no comment has an odd number of double quotes. -/
def leavesStringOpen (line : Text) : Bool := line.count '"' % 2 == 1 && line.head? != some '\''

def lineHints (raw : Text) (number : Nat) : List Problem :=
  let line := trim raw
  (if lacksThen line then
      [⟨"If statement missing \"Then\" keyword", some ⟨number, none⟩⟩]
    else []) ++
  (if leavesStringOpen line then
      [⟨"Unclosed string (uneven number of quotes)", some ⟨number, none⟩⟩]
    else [])

def sourceHints (lines : List Text) : List Problem :=
  (lines.zipIdx 1).flatMap fun (line, number) => lineHints line number

def withSourceHints (problems : List Problem) (lines : List Text) : List Problem :=
  problems ++ (problems.filter (·.place.isNone)).flatMap fun _ => sourceHints lines

/-- Whether the text starts with ": 0 errors.". -/
def startsZeroErrors (s : Text) : Bool :=
  ((dropWord? ":" s).bind fun s => (blanksAndWord? "0" s).bind errorsAndStop?).isSome

/-- Whether a summary "name: 0 errors." stands in the text: its colon has a character of the same
line in front of it. -/
def hasZeroSummary : Text → Bool
  | [] => false
  | c :: s => (inLine c && startsZeroErrors s) || hasZeroSummary s

/-- Whether "0 errors" is mentioned with the zero at the start of a word; `afterWord` says whether a
word character stands in front. -/
def mentionsZeroErrors (afterWord : Bool) : Text → Bool
  | [] => false
  | c :: s =>
    (!afterWord && c == '0' && (blanksAndWord? "errors" s).isSome) || mentionsZeroErrors (isWord c) s

def firstShape? : List ReportShape → Text → Option Sighting
  | [], _ => none
  | shape :: shapes, line => (shape.sighting? line).or (firstShape? shapes line)

/-- A line in none of the shapes is a message in full if it speaks of an error, save of no errors. -/
def looseMention? (line : Text) : Option Sighting :=
  if occursIn "error" (asciiLower line) && !mentionsZeroErrors false line then
    some ⟨line, none, none⟩
  else none

def lineProblem? (line : Text) : Except Fault (Option Problem) :=
  ((firstShape? ReportShape.all line).or (looseMention? line)).mapM Sighting.problem

/-- "Line 3, Col 4: message" filling the line, the column or not. -/
def detail? (s : Text) : Option Sighting := do
  let s ← dropWord? "line" s
  let (line, s) ← blanksAndDigits? s
  let noted : Option (Text × Text) := do
    let s ← dropWord? "," s
    let s ← dropWord? "col" (trimStart s)
    blanksAndDigits? s
  let (column, s) := match noted with
    | some (column, rest) => (some column, rest)
    | none => (none, s)
  let s ← dropWord? ":" s
  let message ← messageAfterBlanks? atEnd s
  some ⟨message, some line, column⟩

/-- The record of a summary line, behind which details may follow. -/
def summaryProblem (count : Text) : Problem :=
  .unplaced ("The program has " ++ count ++ " errors. See detailed messages below.")

/-- The problem on a line that is no summary; after a summary the detail shape is tried first. -/
def scanLine (detailed : Bool) (line : Text) : Except Fault (Option Problem) :=
  match if detailed then detail? line else none with
  | some sighting => some <$> sighting.problem
  | none => lineProblem? line

def scanLines (detailed : Bool) : List Text → Except Fault (List Problem)
  | [] => .ok []
  | raw :: lines =>
    let line := trim raw
    if line.isEmpty || hasZeroSummary line then scanLines detailed lines
    else
      match summaryCount? line with
      | some count => (summaryProblem count :: ·) <$> scanLines true lines
      | none => do
        let found ← scanLine detailed line
        let more ← scanLines detailed lines
        .ok (found.toList ++ more)

def scanReport (output : Text) : Except Fault (List Problem) := scanLines false (outputLines output)

/-- The problems that a compiler run reports. A summary of zero errors anywhere means none; problems
without a place are followed by hints from the source, if there is one. -/
def readReport (output : Text) (source : Option (List Text)) : Except Fault (List Problem) :=
  if hasZeroSummary output then .ok []
  else do
    let problems ← scanReport output
    .ok (match source with
      | some lines => withSourceHints problems lines
      | none => problems)

/-- The problems that a compiler run reports, where looking for the source can fail. It is looked for
only if a problem has no place. -/
def readReportWith (output : Text) (source : Except Fault (Option (List Text))) :
    Except Fault (List Problem) := do
  let problems ← readReport output none
  if problems.all (·.place.isSome) then .ok problems else readReport output (← source)

end BasicWorkbench
