import BasicWorkbench.Faults

namespace BasicWorkbench

/-- A path: the slashes in front, none for a relative path and two only where exactly two were
written, and the names behind them. Empty names and single dots are left out. -/
structure Path where
  slashes : Nat
  names : List Text
  deriving DecidableEq, Repr

namespace Path

def ofText (s : Text) : Path :=
  let slashes := (s.takeWhile (· == '/')).length
  ⟨if slashes = 2 then 2 else min slashes 1,
    (splitAtChar '/' s).filter fun name => !name.isEmpty && name != ['.']⟩

def text (p : Path) : Text :=
  if p.slashes = 0 && p.names.isEmpty then ['.']
  else List.replicate p.slashes '/' ++ joinWith ['/'] p.names

def isAbsolute (p : Path) : Bool := p.slashes != 0

def parent (p : Path) : Path := { p with names := p.names.dropLast }

end Path

/-- A file name without its ending: what stands behind the last dot, unless the dot is the first or
the last character. -/
def withoutEnding (name : Text) : Text :=
  let ending := (name.reverse.takeWhile (· != '.')).reverse
  let stem := name.take (name.length - ending.length - 1)
  if ending.isEmpty || stem.isEmpty then name else stem

/-- The executable that the compiler writes next to a source file. -/
def executableFor (source : Path) : Except Fault Path :=
  match source.names.getLast? with
  | some name => .ok { source with names := source.names.dropLast ++ [withoutEnding name ++ ".exe"] }
  | none => .error (.emptyName source.text)

end BasicWorkbench
