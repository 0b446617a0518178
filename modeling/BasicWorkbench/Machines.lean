import BasicWorkbench.Paths
import BasicWorkbench.TextLines

namespace BasicWorkbench

/-- The kinds of files that a compiler run leaves behind: one without execute permission, a program
that ends at once without a word, and one that the system cannot start. -/
inductive ProgramKind where
  | plain
  | silent
  | malformed
  deriving DecidableEq, Repr

/-- A file that a program creates, and what it complains of if the directory for it is missing. -/
structure Creation where
  path : Path
  kind : ProgramKind
  complaint : List UInt8
  deriving DecidableEq, Repr

/-- How a program behaves when it runs: what it prints, the code it ends with, the files it creates,
and whether it first announces its argument and its working directory. -/
structure Behaviour where
  announces : Bool
  stdout : List UInt8
  stderr : List UInt8
  exitCode : Int
  creates : List Creation
  deriving DecidableEq, Repr

inductive Runnable where
  | denied
  | malformed
  | works (behaviour : Behaviour)
  deriving DecidableEq, Repr

def ProgramKind.runnable : ProgramKind → Runnable
  | .plain => .denied
  | .silent => .works ⟨false, [], [], 0, []⟩
  | .malformed => .malformed

inductive Node where
  | directory
  | file (bytes : List UInt8) (runnable : Runnable)
  deriving DecidableEq, Repr

/-- The names that lead from the root of the file system to an entry. -/
abbrev Trail := List Text

/-- The machine that the tools work on: its file system, the working directory, and the directories in
which a program is searched that is named without one. -/
structure Machine where
  nodes : List (Trail × Node)
  cwd : Trail
  searched : List Text
  deriving DecidableEq, Repr

/-- The directories that a search list names. Without a list the system searches its own two. -/
def searchedIn (list : Option Text) : List Text := splitAtChar ':' (list.getD "/bin:/usr/bin")

def byteCount (s : Text) : Nat := (encodeUtf8 s).length

def nameLimit : Nat := 255

/-- The bytes that a path has to stay below. -/
def pathLimit : Nat := 4096

/-- The first attempt that succeeds. If all fail, the first cause counts that is more than a file or a
directory that is not there, else the last one. -/
def firstStarted {α : Type} (attempts : List (Except SystemCause α)) : Except SystemCause α :=
  match attempts.findSome? Except.toOption with
  | some started => .ok started
  | none =>
    let causes := attempts.filterMap fun
      | .error cause => some cause
      | .ok _ => none
    let grave := causes.find? fun cause => cause != .notFound && cause != .notDirectory
    .error ((grave <|> causes.getLast?).getD .notFound)

/-- A name below a directory. An empty directory adds nothing, and a slash at its end stays the only one. -/
def nameIn (directory name : Text) : Text :=
  if directory.isEmpty || directory.getLast? = some '/' then directory ++ name
  else directory ++ '/' :: name

namespace Machine

def node? (m : Machine) (trail : Trail) : Option Node :=
  if trail.isEmpty then some .directory else m.nodes.lookup trail

/-- Goes on from an entry by names. Every name has to be looked up in a directory; two dots lead to
the directory above, one dot or nothing stays. -/
def walk (m : Machine) (here : Trail) : List Text → Except SystemCause Trail
  | [] => if (m.node? here).isSome then .ok here else .error .notFound
  | name :: names =>
    match m.node? here with
    | some .directory =>
      if name.isEmpty || name = ['.'] then m.walk here names
      else if name = ['.', '.'] then m.walk here.dropLast names
      else if nameLimit < byteCount name then .error .nameTooLong
      else m.walk (here ++ [name]) names
    | some (.file _ _) => .error .notDirectory
    | none => .error .notFound

def locate (m : Machine) (here : Trail) (p : Path) : Except SystemCause Trail :=
  if pathLimit ≤ byteCount p.text then .error .nameTooLong
  else m.walk (if p.isAbsolute then [] else here) p.names

def entry? (m : Machine) (p : Path) : Except SystemCause (Trail × Node) := do
  let trail ← m.locate m.cwd p
  match m.node? trail with
  | some node => .ok (trail, node)
  | none => .error .notFound

/-- The entry that a path names, if it leads to one. A path with a null character leads nowhere; that a
name on the way is too long is a fault. -/
def find (m : Machine) (p : Path) : Except Fault (Option (Trail × Node)) :=
  if p.text.contains '\x00' then .ok none
  else
    match m.entry? p with
    | .ok entry => .ok (some entry)
    | .error .nameTooLong => .error (.system ⟨.nameTooLong, p.text⟩)
    | .error _ => .ok none

def hasEntry (m : Machine) (p : Path) : Except Fault Bool := (·.isSome) <$> m.find p

def read (m : Machine) (p : Path) : Except SystemCause (List UInt8) := do
  match ← m.entry? p with
  | (_, .file bytes _) => .ok bytes
  | (_, .directory) => .error .isDirectory

def setNode (trail : Trail) (node : Node) : List (Trail × Node) → List (Trail × Node)
  | [] => [(trail, node)]
  | (t, n) :: nodes => if t = trail then (t, node) :: nodes else (t, n) :: setNode trail node nodes

def put (m : Machine) (trail : Trail) (node : Node) : Machine :=
  let above := (List.range (trail.length - 1)).map fun i => trail.take (i + 1)
  let missing := above.filter fun t => (m.node? t).isNone
  { m with nodes := setNode trail node (m.nodes ++ missing.map (·, .directory)) }

def delete (m : Machine) (trail : Trail) : Machine :=
  { m with nodes := m.nodes.filter fun e => !trail.isPrefixOf e.1 }

/-- Writes a file. An executable one stays executable, but is no program any more. -/
def writeFile (m : Machine) (trail : Trail) (bytes : List UInt8) : Machine :=
  let runnable :=
    match m.node? trail with
    | some (.file _ .denied) | some .directory | none => .denied
    | some (.file _ _) => .malformed
  m.put trail (.file bytes runnable)

/-- Where a text leads from a directory if it is taken as it is written. -/
def follow (m : Machine) (here : Trail) (s : Text) : Except SystemCause Trail :=
  if pathLimit ≤ byteCount s then .error .nameTooLong
  else m.walk (if s.head? = some '/' then [] else here) (splitAtChar '/' s)

def programOn (m : Machine) (trail : Trail) : Except SystemCause (Trail × Behaviour) :=
  match m.node? trail with
  | some (.file _ (.works behaviour)) => .ok (trail, behaviour)
  | some (.file _ .malformed) => .error .badFormat
  | some (.file _ .denied) | some .directory => .error .denied
  | none => .error .notFound

/-- The file that the system starts for a path, seen from the directory in which the program is to
run. A name without a directory is searched, one directory after the other. -/
def programAt (m : Machine) (here : Trail) (p : Path) : Except SystemCause (Trail × Behaviour) :=
  if '/' ∈ p.text then do m.programOn (← m.locate here p)
  else
    firstStarted (m.searched.map fun directory => do
      m.programOn (← m.follow here (nameIn directory p.text)))

end Machine

def trailText (trail : Trail) : Text := '/' :: joinWith ['/'] trail

/-- A text file as the tools read it: flaws replaced, one byte order mark dropped, and a line feed
for every break. -/
def readableText (bytes : List UInt8) : Text := unifyBreaks (dropMark (decodeLossy bytes))

/-- What the tools catch of a stream: flaws replaced, and a line feed for every break. -/
def capturedText (bytes : List UInt8) : Text := unifyBreaks (decodeLossy bytes)

namespace Machine

def sourceLines (m : Machine) (p : Path) : Except Fault (Option (List Text)) := do
  match ← m.find p with
  | some (_, .file bytes _) => .ok (some (editorLines (readableText bytes)))
  | _ => .ok none

/-- The machine with a file created, seen from a directory, and what the program complains of if it
cannot. A name that belongs to a directory is left alone. -/
def create (m : Machine) (here : Trail) (c : Creation) : Machine × List UInt8 :=
  match m.locate here c.path.parent, c.path.names.getLast? with
  | .ok above, some name =>
    let trail := above ++ [name]
    match m.node? above, m.node? trail with
    | some .directory, some .directory => (m, [])
    | some .directory, _ => (m.put trail (.file [] c.kind.runnable), [])
    | _, _ => (m, c.complaint)
  | _, _ => (m, c.complaint)

def afterRun (m : Machine) (here : Trail) (behaviour : Behaviour) : Machine × List UInt8 :=
  behaviour.creates.foldl
    (fun (m, stderr) c =>
      let (m, complaint) := m.create here c
      (m, stderr ++ complaint))
    (m, behaviour.stderr)

end Machine

def Behaviour.printed (b : Behaviour) (here : Trail) (argument : Text) : List UInt8 :=
  let announcement : Text :=
    if b.announces then "ARGS 1 " ++ argument ++ "\nCWD " ++ trailText here ++ "\n" else []
  encodeUtf8 announcement ++ b.stdout

end BasicWorkbench
