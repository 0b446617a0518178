import BasicWorkbench.CompileTurns

namespace BasicWorkbench

/-- What the outside sees of a message: the machine and the state afterwards, the log and the
messages of the server. -/
structure Reaction where
  machine : Machine
  state : ServerState
  log : List LogLine
  sent : List ServerMessage

/-- The messages of a turn. A request is answered at the end; otherwise a fault is shown. -/
def Turn.messages (t : Turn) (isRequest : Bool) : List ServerMessage :=
  let last : List ServerMessage :=
    match t.outcome with
    | .ok answer => if isRequest then [.answer answer] else []
    | .error refusal =>
      if isRequest then [.refuse refusal] else [.showError ("Error in server: " ++ refusal.message)]
  t.sent ++ last

namespace ServerState

def turn (m : Machine) (env : Environment) (s : ServerState) : ClientMessage → Machine × Turn
  | .greeting g => (m, s.onGreeting env g)
  | .greetingDone =>
    (m, ⟨s, [info "Small Basic Language Server initialized successfully"], [], .ok .nothing⟩)
  | .shutdown => (m, s.onShutdown)
  | .opened uri text => (m, s.onOpened uri text)
  | .changed uri edits => (m, s.onChanged m uri edits)
  | .saved uri => (m, s.onSaved m uri)
  | .closed uri => (m, s.onClosed uri)
  | .configured configuration => (m, s.onConfigured m env configuration)
  | .completion uri position => (m, s.onCompletion m uri position)
  | .resolveItem fields => (m, s.onResolve fields)
  | .outline uri => (m, s.onOutline m uri)
  | .command name arguments => s.onCommand m name arguments
  | .notebook news => (m, s.onNotebook news)
  | .folders uris => (m, s.onFolders uris)
  | .progressCancelled token => (m, s.onProgressCancelled token)
  | .unhandled => (m, ⟨s, [], [], .ok .nothing⟩)

/-- Handles a message. A server that was shut down reacts to nothing. -/
def receive (m : Machine) (env : Environment) (s : ServerState) (message : ClientMessage) : Reaction :=
  if s.stopped then ⟨m, s, [], []⟩
  else
    let (m, t) := s.turn m env message
    ⟨m, t.state, t.log, t.messages message.isRequest⟩

end ServerState

end BasicWorkbench
