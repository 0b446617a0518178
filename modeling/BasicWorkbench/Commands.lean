import BasicWorkbench.Blocks
import BasicWorkbench.CommandGrammars
import BasicWorkbench.Compilations

namespace BasicWorkbench

/-- What a command leaves behind: its exit code and what it printed. -/
structure Transcript where
  code : Int
  stdout : Text
  stderr : Text
  deriving DecidableEq, Repr

/-- The marks that color printed text. -/
structure Palette where
  red : Text
  green : Text
  yellow : Text
  gray : Text
  bold : Text
  reset : Text
  deriving DecidableEq, Repr

def Palette.plain : Palette := ⟨[], [], [], [], [], []⟩

def Palette.ansi : Palette :=
  ⟨"\x1b[91m", "\x1b[92m", "\x1b[93m", "\x1b[90m", "\x1b[1m", "\x1b[0m"⟩

/-- Colors are for terminals, unless the user asks for none. -/
def Palette.choose (terminal : Bool) (env : Environment) : Palette :=
  if terminal && ((env.find? "NO_COLOR").getD []).isEmpty then .ansi else .plain

def problemLine (colors : Palette) (filename : Text) (p : Problem) : Text :=
  let mark := colors.red ++ "error:" ++ colors.reset ++ " " ++ p.message ++ "\n"
  match p.place with
  | some place =>
    let column := if place.column.getD 0 = 0 then 1 else place.column.getD 0
    "  " ++ colors.gray ++ placeText (some filename) place.line column ++ ":" ++ colors.reset ++ " " ++
      mark
  | none => "  " ++ mark

def openerLine (colors : Palette) (filename : Text) (b : BlockOpener) : Text :=
  let opener : Text :=
    match b.name with
    | some name => "Sub " ++ name
    | none => b.kind.opener
  colors.gray ++ placeText (some filename) (b.line + 1) (b.column + 1) ++ ":" ++ colors.reset ++ " " ++
    colors.red ++ "error:" ++ colors.reset ++ " '" ++ opener ++ "' is missing a matching '" ++
    b.kind.closer ++ "'\n"

def fileMissing (p : Path) : Transcript := ⟨1, [], "Error: File not found: " ++ p.text ++ "\n"⟩

def readTextFile (m : Machine) (p : Path) : Except Fault Text :=
  match m.read p with
  | .ok bytes => .ok (readableText bytes)
  | .error cause => .error (.system ⟨cause, p.text⟩)

def checkCommand (m : Machine) (colors : Palette) (input : Path) : Except Fault Transcript := do
  if ← m.hasEntry input then
    let source ← readTextFile m input
    match unclosedBlocksOf source with
    | [] =>
      .ok ⟨0, colors.green ++ "OK:" ++ colors.reset ++ " " ++ input.text ++ " (all blocks closed)\n", []⟩
    | unclosed => .ok ⟨1, unclosed.flatMap (openerLine colors input.text), []⟩
  else .ok (fileMissing input)

def failedWith (colors : Palette) (printed : Text) (failure : ToolFailure) : Transcript :=
  ⟨1, printed, colors.red ++ "Error:" ++ colors.reset ++ " " ++ failure.message ++ "\n"⟩

/-- The outcome of an operation whose tool failures are reported rather than passed on. -/
def reportFailure (colors : Palette) (printed : Text) :
    Except Fault Transcript → Except Fault Transcript
  | .error (.tool failure) => .ok (failedWith colors printed failure)
  | outcome => outcome

def failureReport (colors : Palette) (input : Path) (problems : List Problem) : Transcript :=
  ⟨1, problems.flatMap (problemLine colors input.text),
    colors.red ++ "Compilation failed:" ++ colors.reset ++ " " ++ input.text ++ "\n"⟩

def rawReport (colors : Palette) (output : Text) : Text :=
  if output.isEmpty then []
  else colors.bold ++ "Compiler output:" ++ colors.reset ++ "\n" ++ output ++ "\n"

def compileCommand (m : Machine) (colors : Palette) (settings : Settings) (showRaw : Bool)
    (input : Path) : Except Fault Transcript :=
  reportFailure colors [] do
    let (verdict, output) ← (compileProgram m settings input).2
    let raw := if showRaw then rawReport colors output else []
    match verdict with
    | .built program =>
      .ok ⟨0, raw ++ colors.green ++ "Compiled:" ++ colors.reset ++ " " ++ input.text ++ " -> " ++
        program ++ "\n", []⟩
    | .failed problems =>
      let report := failureReport colors input problems
      .ok { report with stdout := raw ++ report.stdout }

def runCommand (m : Machine) (colors : Palette) (settings : Settings) (input : Path) :
    Except Fault Transcript :=
  let (m, outcome) := compileProgram m settings input
  reportFailure colors [] do
    let (verdict, _) ← outcome
    match verdict with
    | .failed problems => .ok (failureReport colors input problems)
    | .built program =>
      let printed := colors.green ++ "Running:" ++ colors.reset ++ " " ++ program ++ "\n"
      reportFailure colors printed do
        let _ ← launchProgram m (.ofText program)
        .ok ⟨0, printed, []⟩

/-- What is given as the source of a report: a file, or a value that was struck out. -/
inductive ReportSource where
  | file (p : Path)
  | struck
  deriving DecidableEq, Repr

namespace ReportSource

def ofValue : OptionValue → ReportSource
  | .text s => .file (.ofText s)
  | .struck => .struck

def path? : ReportSource → Option Path
  | .file p => some p
  | .struck => none

def lines (m : Machine) : ReportSource → Except Fault (Option (List Text))
  | .file p => m.sourceLines p
  | .struck => .error (.noPath "list")

end ReportSource

def reportCommand (m : Machine) (colors : Palette) (source : Option ReportSource) (log : Path) :
    Except Fault Transcript := do
  if ← m.hasEntry log then
    let output ← readTextFile m log
    let problems ← readReportWith output ((source.map (·.lines m)).getD (.ok none))
    let filename : Text :=
      match source.bind ReportSource.path? with
      | some source => source.text
      | none => "<source>"
    if problems.isEmpty then
      .ok ⟨0, colors.green ++ "OK:" ++ colors.reset ++ " no errors found in " ++ log.text ++ "\n", []⟩
    else
      .ok ⟨1, colors.yellow ++ natText problems.length ++ " error(s) found:" ++ colors.reset ++ "\n" ++
        problems.flatMap (problemLine colors filename), []⟩
  else .ok (fileMissing log)

/-- The settings of a command: the environment's, and above them the compiler that an option names. -/
def commandSettings (env : Environment) (compiler : Option Text) : Settings :=
  let settings := Settings.initial.resolve env
  match compiler with
  | some (c :: path) => { settings with compilerPath := c :: path }
  | _ => settings

def ReadingStop.transcript (g : OptionGrammar) : ReadingStop → Transcript
  | .show text => ⟨0, text, []⟩
  | .refuse complaint => ⟨2, [], g.usage ++ g.program ++ ": error: " ++ complaint ++ "\n"⟩

inductive Command where
  | help
  | check (input : Path)
  | compile (input : Path) (compiler : Option Text) (showRaw : Bool)
  | run (input : Path) (compiler : Option Text)
  | readReport (log : Path) (source : Option ReportSource)
  deriving DecidableEq, Repr

def commandGrammar (name : Text) : OptionGrammar :=
  if name = "check".toList then checkGrammar
  else if name = "compile".toList || name = "c".toList then compileGrammar
  else if name = "run".toList || name = "r".toList then runGrammar
  else reportGrammar

def Command.ofReading (name : Text) (r : ArgumentReading) : Command :=
  let input := Path.ofText (r.operand.getD [])
  if name = "check".toList then .check input
  else if name = "compile".toList || name = "c".toList then
    .compile input (r.text? "--compiler") (r.hasSwitch "--raw")
  else if name = "run".toList || name = "r".toList then .run input (r.text? "--compiler")
  else .readReport input ((r.value? "--source").map ReportSource.ofValue)

/-- Reads a command line. A command reads its own arguments before what has no place is refused. -/
def Command.ofArguments (args : List Text) : Except Transcript Command := do
  let refused (g : OptionGrammar) (stop : ReadingStop) : Transcript := stop.transcript g
  let top ← (mainGrammar.read args).mapError (refused mainGrammar)
  let (command, extras) ← match top.operand with
    | none => .ok (Command.help, top.extras)
    | some name => do
      let g := commandGrammar name
      let r ← (g.read top.commandArguments).mapError (refused g)
      .ok (Command.ofReading name r, top.extras ++ r.extras)
  if extras.isEmpty then .ok command
  else .error (refused mainGrammar (.refuse ("unrecognized arguments: " ++ joinWith " " extras)))

def Command.perform (m : Machine) (env : Environment) (colors : Palette) :
    Command → Except Fault Transcript
  | .help => .ok ⟨0, mainGrammar.help, []⟩
  | .check input => checkCommand m colors input
  | .compile input compiler showRaw => compileCommand m colors (commandSettings env compiler) showRaw input
  | .run input compiler => runCommand m colors (commandSettings env compiler) input
  | .readReport log source => reportCommand m colors source log

def runArguments (m : Machine) (env : Environment) (terminal : Bool) (args : List Text) :
    Except Fault Transcript :=
  match Command.ofArguments args with
  | .ok command => command.perform m env (.choose terminal env)
  | .error transcript => .ok transcript

end BasicWorkbench
