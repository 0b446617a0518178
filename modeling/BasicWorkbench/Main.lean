import BasicWorkbench.Commands

namespace BasicWorkbench

def Command.paths (env : Environment) : Command → List Path
  | .help => []
  | .check input => [input]
  | .compile input compiler _ | .run input compiler =>
    [input, .ofText (commandSettings env compiler).compilerPath]
  | .readReport log source => log :: (source.bind ReportSource.path?).toList

/-- Where names lead from an entry if every name on the way is a directory. -/
def followNames (here : Trail) : List Text → Trail
  | [] => here
  | name :: names => followNames (if name = ['.', '.'] then here.dropLast else here ++ [name]) names

def trailsTo (cwd : Trail) (p : Path) : List Trail :=
  (List.range (p.names.length + 1)).map fun count =>
    followNames (if p.isAbsolute then [] else cwd) (p.names.take count)

def neededTrails (cwd : Trail) (env : Environment) (args : List Text) : List Trail :=
  match Command.ofArguments args with
  | .ok command => (command.paths env).flatMap (trailsTo cwd)
  | .error _ => []

/-- The machine with an entry as it is on disk. Programs are not started from here, so no file counts
as executable. -/
def loadEntry (m : Machine) (trail : Trail) : IO Machine := do
  try
    let bytes ← IO.FS.readBinFile (String.ofList (trailText trail))
    return m.put trail (.file bytes.toList .denied)
  catch
    | .inappropriateType .. => return m.put trail .directory
    | _ => return m

def loadEnvironment : IO Environment := do
  let names := ["SMALLBASIC_COMPILER", "NO_COLOR"]
  let values ← names.mapM fun name => do
    return (← IO.getEnv name).map fun value => (name.toList, value.toList)
  return values.filterMap id

def runOnDisk (args : List Text) : IO (Except Fault Transcript) := do
  let env ← loadEnvironment
  let cwd := (Path.ofText (← IO.currentDir).toString).names
  let searched := searchedIn ((← IO.getEnv "PATH").map String.toList)
  let m ← (neededTrails cwd env args).foldlM loadEntry (Machine.put ⟨[], cwd, searched⟩ cwd .directory)
  return runArguments m env (← (← IO.getStdout).isTty) args

end BasicWorkbench

def main (args : List String) : IO UInt32 := do
  match ← BasicWorkbench.runOnDisk (args.map String.toList) with
  | .ok transcript =>
    IO.print (String.ofList transcript.stdout)
    IO.eprint (String.ofList transcript.stderr)
    return transcript.code.toNat.toUInt32
  | .error fault =>
    IO.eprintln (String.ofList (fault.label ++ ": ".toList ++ fault.message))
    return 1
