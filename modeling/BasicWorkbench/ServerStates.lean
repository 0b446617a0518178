import BasicWorkbench.ServerMessages

namespace BasicWorkbench

/-- What the server keeps between messages. There is no workspace before the editor has introduced
itself; analyzers and the findings of compile runs are kept under URIs as they were written. -/
structure ServerState where
  settings : Settings
  workspace : Option Workspace
  analyzers : OrderedMap Analyzer
  compilerDiagnostics : OrderedMap (List Diagnostic)
  stopped : Bool

namespace ServerState

def fresh (env : Environment) : ServerState := ⟨Settings.initial.resolve env, none, [], [], false⟩

def document (s : ServerState) (uri : Text) : Except Fault Document :=
  match s.workspace with
  | none => .error .noWorkspace
  | some w => w.document uri

def documentText (m : Machine) (s : ServerState) (uri : Text) : Except Fault Text := do
  (← s.document uri).text m

def analyze (s : ServerState) (uri text : Text) : ServerState :=
  { s with analyzers := s.analyzers.insert uri (analysis s.settings text) }

def analyzerFor (m : Machine) (s : ServerState) (uri : Text) : Except Fault (Analyzer × ServerState) :=
  match s.analyzers.find? uri with
  | some analyzer => .ok (analyzer, s)
  | none => do
    let text ← s.documentText m uri
    .ok (analysis s.settings text, s.analyze uri text)

def findings (s : ServerState) (uri : Text) : List Diagnostic :=
  (s.compilerDiagnostics.find? uri).getD []

def diagnosticsFor (s : ServerState) (uri : Text) : List Diagnostic :=
  ((s.analyzers.find? uri).map Analyzer.diagnostics).getD [] ++ s.findings uri

def publication (s : ServerState) (uri : Text) : ServerMessage :=
  .publish uri (limitDiagnostics s.settings.maxProblems (s.diagnosticsFor uri))

def forgetFindings (s : ServerState) (uri : Text) : ServerState :=
  { s with compilerDiagnostics := s.compilerDiagnostics.erase uri }

end ServerState

end BasicWorkbench
