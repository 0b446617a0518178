import BasicWorkbench.ServerLaunch
import BasicWorkbench.ServerStates

namespace BasicWorkbench

/-- What comes of a message: the state and what the server logged and sent, up to the end or to a
refusal. -/
structure Turn where
  state : ServerState
  log : List LogLine
  sent : List ServerMessage
  outcome : Except Refusal Answer

def Turn.fault (s : ServerState) (f : Fault) : Turn := ⟨s, [], [], .error (.fault f)⟩

def info (message : Text) : LogLine := ⟨.info, message⟩

def Greeting.checkRoot (g : Greeting) : Except Fault Unit := do
  let root ←
    match g.rootUri, g.rootPath with
    | some uri, _ => .ok (some uri)
    | none, some path => some <$> uriOfPath path
    | none, none => .ok none
  match root with
  | some uri => do
    let _ ← pathOfUri uri
  | none => .ok ()

namespace ServerState

/-- The editor introduces itself: no document is open yet. -/
def onGreeting (env : Environment) (s : ServerState) (g : Greeting) : Turn :=
  match g.checkRoot with
  | .error f => .fault s f
  | .ok () =>
    let settings :=
      match g.options with
      | .obj fields => (Settings.ofConfigurationFields fields).resolve env
      | _ => s.settings
    ⟨{ s with settings := settings, workspace := some (.empty g.offer.unit) },
      [info "Initializing Small Basic Language Server"], [], .ok (.offer g.offer)⟩

def onShutdown (s : ServerState) : Turn :=
  ⟨{ s with stopped := true }, [info "Shutting down Small Basic Language Server"], [], .ok .nothing⟩

def hearing (s : ServerState) (news : DocumentNews) (next : ServerState → Turn) : Turn :=
  match s.workspace with
  | none => .fault s .noWorkspace
  | some w =>
    match w.hear news with
    | .error f => .fault s f
    | .ok w => next { s with workspace := some w }

def onOpened (s : ServerState) (uri text : Text) : Turn :=
  s.hearing (.opened uri text) fun s =>
    let s := s.analyze uri text
    ⟨s, [info ("Document opened: " ++ uri)], [s.publication uri], .ok .nothing⟩

def onChanged (m : Machine) (s : ServerState) (uri : Text) (edits : List TextEdit) : Turn :=
  s.hearing (.changed uri edits) fun s =>
    match s.document uri with
    | .error f => .fault s f
    | .ok document =>
      let s := s.forgetFindings uri
      let log : List LogLine := [⟨.debug, "Document changed: " ++ uri⟩]
      match document.text m with
      | .error f => ⟨s, log, [], .error (.fault f)⟩
      | .ok text =>
        let s := s.analyze uri text
        ⟨s, log, [s.publication uri], .ok .nothing⟩

def onSaved (m : Machine) (s : ServerState) (uri : Text) : Turn :=
  let log := [info ("Document saved: " ++ uri)]
  match s.documentText m uri with
  | .error f => ⟨s, log, [], .error (.fault f)⟩
  | .ok text =>
    let s := s.analyze uri text
    ⟨s, log, [s.publication uri], .ok .nothing⟩

def onClosed (s : ServerState) (uri : Text) : Turn :=
  s.hearing (.closed uri) fun s =>
    let s := { s with analyzers := s.analyzers.erase uri }.forgetFindings uri
    ⟨s, [info ("Document closed: " ++ uri)], [.publish uri []], .ok .nothing⟩

/-- News of a notebook reach the documents; nothing is analyzed before it is asked for. -/
def onNotebook (s : ServerState) (news : NotebookNews) : Turn :=
  match s.workspace with
  | none => .fault s .noWorkspace
  | some w =>
    let (w, heard) := w.hearOfNotebook news
    let s := { s with workspace := some w }
    match heard with
    | .ok () => ⟨s, [], [], .ok .nothing⟩
    | .error f => .fault s f

def onFolders (s : ServerState) (uris : List Text) : Turn :=
  if s.workspace.isNone && !uris.isEmpty then .fault s .noWorkspace else ⟨s, [], [], .ok .nothing⟩

/-- No progress is ever shown, so that there is none to cancel; but a list or an object cannot name one. -/
def onProgressCancelled (s : ServerState) (token : Json) : Turn :=
  if token.isSingle then ⟨s, [], [], .ok .nothing⟩ else .fault s (.unusableKey token.kindWord)

def reanalyze (m : Machine) (s : ServerState) : List Text → Turn
  | [] => ⟨s, [], [], .ok .nothing⟩
  | uri :: uris =>
    match s.documentText m uri with
    | .error f => .fault s f
    | .ok text =>
      let s := s.analyze uri text
      let rest := reanalyze m s uris
      { rest with sent := s.publication uri :: rest.sent }

def onConfigured (m : Machine) (env : Environment) (s : ServerState) (configuration : Json) : Turn :=
  match Settings.ofConfiguration configuration with
  | .error f => .fault s f
  | .ok settings =>
    let settings := settings.resolve env
    let turn := reanalyze m { s with settings := settings } s.analyzers.keys
    { turn with log := info ("Settings updated: compiler at " ++ settings.compilerPath) :: turn.log }

def onCompletion (m : Machine) (s : ServerState) (uri : Text) (position : Position) : Turn :=
  match s.analyzerFor m uri with
  | .error f => .fault s f
  | .ok (analyzer, s) =>
    ⟨s, [], [], .ok (.completions (analyzer.completions position.line position.character))⟩

def onOutline (m : Machine) (s : ServerState) (uri : Text) : Turn :=
  match s.analyzerFor m uri with
  | .error f => .fault s f
  | .ok (analyzer, s) => ⟨s, [], [], .ok (.outline analyzer.outline)⟩

def onResolve (s : ServerState) (fields : List (Text × Json)) : Turn :=
  match resolveFields fields with
  | .error f => .fault s f
  | .ok fields => ⟨s, [], [], .ok (.item fields)⟩

end ServerState

end BasicWorkbench
