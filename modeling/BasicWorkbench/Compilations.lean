import BasicWorkbench.Machines
import BasicWorkbench.ReportScan
import BasicWorkbench.Settings

namespace BasicWorkbench

/-- How a compilation ended: with a program, or with the problems that explain why not. -/
inductive Verdict where
  | built (program : Text)
  | failed (problems : List Problem)
  deriving DecidableEq, Repr

/-- A compilation and, if asked for, what the compiler printed. -/
structure Compilation where
  verdict : Verdict
  rawOutput : Option Text
  deriving DecidableEq, Repr

def Compilation.program? (c : Compilation) : Option Text :=
  match c.verdict with
  | .built program => some program
  | .failed _ => none

def Compilation.problems (c : Compilation) : List Problem :=
  match c.verdict with
  | .built _ => []
  | .failed problems => problems

def joinStreams (stdout stderr : Text) : Text :=
  if stderr.isEmpty then stdout else stdout ++ "\nSTDERR:\n" ++ stderr

def missingProgram : Problem :=
  .unplaced "Compilation supposedly succeeded but output file not found"

/-- The code with which a run ended: whether it is zero, and how it is shown. -/
structure ExitStatus where
  isZero : Bool
  shown : Text
  deriving DecidableEq, Repr

def ExitStatus.ofCode (code : Int) : ExitStatus := ⟨code == 0, intText code⟩

def namelessFailure (output : Text) (status : ExitStatus) : Problem :=
  let detail := trim output
  .unplaced ("Compilation failed (exit code " ++ status.shown ++ "): " ++
    if detail.isEmpty then "Unknown error".toList else detail)

/-- The verdict on a finished run of the compiler, where looking for the source can fail. An exit code
of zero or a summary of zero errors counts as success if the program is there. -/
def judgeWith (m : Machine) (output : Text) (status : ExitStatus)
    (source : Except Fault (Option (List Text))) (program : Path) : Except Fault Verdict := do
  let succeeded := status.isZero || hasZeroSummary output
  let built ← if succeeded then m.hasEntry program else .ok false
  if built then .ok (.built program.text)
  else
    let problems ← readReportWith output source
    let fallback := if succeeded then missingProgram else namelessFailure output status
    .ok (.failed (if problems.isEmpty then [fallback] else problems))

def judge (m : Machine) (output : Text) (exitCode : Int) (source program : Path) :
    Except Fault Verdict :=
  judgeWith m output (.ofCode exitCode) (m.sourceLines source) program

/-- Where the source of a compilation is. The compiler and the source have to exist. -/
def sourceTrail (m : Machine) (compiler source : Path) : Except Fault Trail := do
  if !(← m.hasEntry compiler) then .error (.tool (.compilerMissing compiler.text))
  else
    match ← m.find source with
    | some (trail, _) => .ok trail
    | none => .error (.tool (.sourceMissing source.text))

/-- Compiles a program and gives the machine afterwards. The compiler runs in the directory of the
source, with its resolved path as the argument. -/
def compileProgram (m : Machine) (settings : Settings) (source : Path) :
    Machine × Except Fault (Verdict × Text) :=
  let compiler := Path.ofText settings.compilerPath
  match sourceTrail m compiler source with
  | .error f => (m, .error f)
  | .ok trail =>
    let here := trail.dropLast
    match m.programAt here compiler with
    | .error cause => (m, .error (.tool (.compilerStart ⟨cause, compiler.text⟩)))
    | .ok (_, behaviour) =>
      let (m, stderr) := m.afterRun here behaviour
      let source : Path := ⟨1, trail⟩
      let stdout := capturedText (behaviour.printed here source.text)
      let output := joinStreams stdout (capturedText stderr)
      (m, do
        let program ← executableFor source
        let verdict ← judge m output behaviour.exitCode source program
        .ok (verdict, output))

def launchProgram (m : Machine) (program : Path) : Except Fault Int := do
  if !(← m.hasEntry program) then .error (.tool (.sourceMissing program.text))
  else
    let refused (cause : SystemCause) : Fault :=
      .tool (.programStart program.text ⟨cause, program.text⟩)
    let here ← (m.locate m.cwd program.parent).mapError refused
    let (_, behaviour) ← (m.programAt here program).mapError refused
    .ok behaviour.exitCode

def Json.ofOption {α : Type} (value : α → Json) : Option α → Json
  | some a => value a
  | none => .null

def Problem.fields (p : Problem) : List (Text × Json) :=
  [("message", .str p.message), ("line", .ofOption .int p.line?), ("column", .ofOption .int p.column?)]

def Compilation.fields (c : Compilation) : List (Text × Json) :=
  [("success", .bool c.program?.isSome), ("exePath", .ofOption .str c.program?),
    ("errors", .arr (c.problems.map fun p => .obj p.fields)), ("rawOutput", .ofOption .str c.rawOutput)]

end BasicWorkbench
