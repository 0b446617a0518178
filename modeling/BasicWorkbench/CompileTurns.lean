import BasicWorkbench.ServerTurns

namespace BasicWorkbench

/-- A compile run that the editor asks for: the URI under which its findings are published, and the
path of the program. -/
structure CompileJob where
  uri : Text
  path : Text
  deriving DecidableEq, Repr

def CompileJob.ofTarget (target : Text) : Except Fault CompileJob := do
  if ("file:" : Text).isPrefixOf target then .ok ⟨target, ← pathOfUri target⟩
  else .ok ⟨← uriOfPath target, target⟩

/-- The target among the arguments of the command: the first, or the first of a list that is the only
argument. -/
def compileTarget? (arguments : List Json) : Option Text :=
  let arguments :=
    match arguments with
    | [.arr inner] => inner
    | _ => arguments
  match arguments with
  | .str target :: _ => some target
  | _ => none

namespace ServerState

def compileBegun (job : CompileJob) : LogLine := info ("Compiling: " ++ job.path)

/-- The diagnostics that a run publishes. Only an analyzed document has its blocks among them and its
number of problems limited. -/
def compilePublication (s : ServerState) (uri : Text) : ServerMessage :=
  match s.analyzers.find? uri with
  | some _ => s.publication uri
  | none => .publish uri (s.findings uri)

def storeVerdict (s : ServerState) (uri : Text) : Verdict → Except Fault ServerState
  | .built _ => .ok (s.forgetFindings uri)
  | .failed problems => do
    let diagnostics ← problemDiagnostics problems
    .ok { s with compilerDiagnostics := s.compilerDiagnostics.insert uri diagnostics }

def verdictNews : Verdict → LogLine
  | .built program => info ("Compiled successfully: " ++ program)
  | .failed problems => info ("Compilation failed with " ++ natText problems.length ++ " errors")

/-- A run comes to its end. Its result meets the state of that moment, which other messages may have
changed since the run began. -/
def onCompiled (s : ServerState) (job : CompileJob) (result : Except Fault (Verdict × Text)) : Turn :=
  match result with
  | .error (.tool failure) =>
    ⟨s, [⟨.error, "Compilation could not run: " ++ failure.message⟩],
      [.showError ("Error during compilation: " ++ failure.message)], .ok .nothing⟩
  | .error f => .fault s f
  | .ok (verdict, output) =>
    match s.storeVerdict job.uri verdict with
    | .error f => ⟨s, [verdictNews verdict], [], .error (.fault f)⟩
    | .ok s =>
      ⟨s, [verdictNews verdict], [s.compilePublication job.uri],
        .ok (.compilation ⟨verdict, some output⟩)⟩

def onCompile (m : Machine) (s : ServerState) (arguments : List Json) : Machine × Turn :=
  match compileTarget? arguments with
  | none => (m, ⟨s, [], [.showError "smallbasic.compile expects a document URI"], .ok .nothing⟩)
  | some target =>
    match CompileJob.ofTarget target with
    | .error f => (m, .fault s f)
    | .ok job =>
      let (m, result) := compileProgram m s.settings (.ofText job.path)
      let turn := s.onCompiled job result
      (m, { turn with log := compileBegun job :: turn.log })

def compileCommandName : Text := "smallbasic.compile"

def onCommand (m : Machine) (s : ServerState) (name : Text) (arguments : List Json) : Machine × Turn :=
  if name = compileCommandName then s.onCompile m arguments
  else (m, ⟨s, [], [], .error (.unknownCommand name)⟩)

end ServerState

end BasicWorkbench
