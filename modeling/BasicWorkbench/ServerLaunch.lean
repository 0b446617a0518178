import BasicWorkbench.Commands

namespace BasicWorkbench

inductive LogLevel where
  | debug
  | info
  | warning
  | error
  deriving DecidableEq, Repr

def LogLevel.number : LogLevel → Nat
  | .debug => 10
  | .info => 20
  | .warning => 30
  | .error => 40

def LogLevel.name : LogLevel → Text
  | .debug => "DEBUG"
  | .info => "INFO"
  | .warning => "WARNING"
  | .error => "ERROR"

def LogLevel.ofOption (name : Text) : LogLevel :=
  if name = "debug".toList then .debug
  else if name = "warning".toList then .warning
  else if name = "error".toList then .error
  else .info

structure LogLine where
  level : LogLevel
  message : Text
  deriving DecidableEq, Repr

def LogLine.text (l : LogLine) : Text := l.level.name ++ ": " ++ l.message

/-- How the server listens: on its standard streams or on a port of a host, of which each may have been
struck out. -/
inductive Listening where
  | streams
  | socket (host : Option Text) (port : Option Int)
  deriving DecidableEq, Repr

/-- What a command line starts: a server with its log level and first log lines. -/
structure ServerLaunch where
  listening : Listening
  level : LogLevel
  log : List LogLine
  deriving DecidableEq, Repr

inductive LaunchOutcome where
  | started (launch : ServerLaunch)
  | ended (transcript : Transcript)
  deriving DecidableEq, Repr

def Listening.announcement : Listening → Text
  | .streams => "Starting Small Basic LSP in stdio mode"
  | .socket host port =>
    "Starting Small Basic LSP in TCP mode on " ++ host.getD "[]" ++ ":" ++ (port.map intText).getD "[]"

def LogLevel.ofValue : Option OptionValue → Except Fault LogLevel
  | none => .ok .info
  | some (.text name) => .ok (.ofOption name)
  | some .struck => .error .struckLevel

def Listening.ofReading (r : ArgumentReading) : Listening :=
  if r.hasSwitch "--tcp" then
    let host : Option Text :=
      match r.value? "--host" with
      | none => some "127.0.0.1"
      | some (.text host) => some host
      | some .struck => none
    let port : Option Int :=
      match r.value? "--port" with
      | none => some 2087
      | some (.text port) => readInteger? port
      | some .struck => none
    .socket host port
  else .streams

/-- Reads the command line of the server. The start is logged where the level lets it through. -/
def LaunchOutcome.ofArguments (args : List Text) : Except Fault LaunchOutcome :=
  let refused (stop : ReadingStop) : LaunchOutcome := .ended (stop.transcript serverGrammar)
  match serverGrammar.read args with
  | .error stop => .ok (refused stop)
  | .ok r =>
    if !r.extras.isEmpty then
      .ok (refused (.refuse ("unrecognized arguments: " ++ joinWith " " r.extras)))
    else do
      let level ← LogLevel.ofValue (r.value? "--log-level")
      let listening := Listening.ofReading r
      let shown := level.number ≤ LogLevel.info.number
      .ok (.started ⟨listening, level, if shown then [⟨.info, listening.announcement⟩] else []⟩)

end BasicWorkbench
