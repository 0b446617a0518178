import BasicWorkbench.Text
import BasicWorkbench.TextLines
import BasicWorkbench.WordChars

namespace BasicWorkbench

inductive BlockKind where
  | conditional
  | whileLoop
  | forLoop
  | subroutine
  deriving DecidableEq, Repr

def BlockKind.all : List BlockKind := [.conditional, .whileLoop, .forLoop, .subroutine]

def BlockKind.opener : BlockKind → Text
  | .conditional => "If"
  | .whileLoop => "While"
  | .forLoop => "For"
  | .subroutine => "Sub"

def BlockKind.closer : BlockKind → Text
  | .conditional => "EndIf"
  | .whileLoop => "EndWhile"
  | .forLoop => "EndFor"
  | .subroutine => "EndSub"

/-- A line that opens a block: the line's number and the span of the keyword, for a subroutine up to
the end of its name. Lines and columns count from zero. -/
structure BlockOpener where
  kind : BlockKind
  line : Nat
  column : Nat
  length : Nat
  name : Option Text
  deriving DecidableEq, Repr

def BlockOpener.endColumn (b : BlockOpener) : Nat := b.column + b.length

def dropKeyword? (word s : Text) : Option Text :=
  match dropWord? (asciiLower word) s with
  | some (c :: rest) => if isWord c then none else some (c :: rest)
  | other => other

def takeName? (isStart : Char → Bool) (s : Text) : Option Text :=
  match s with
  | [] => none
  | c :: _ => if isStart (foldChar c) then some (s.takeWhile fun c => isNameChar (foldChar c)) else none

/-- The opener of that kind on a line: the keyword has to be the first word, and a subroutine has to
have a name. -/
def openerOn? (kind : BlockKind) (number : Nat) (line : Text) : Option BlockOpener :=
  let body := trimStart line
  let column := line.length - body.length
  match kind with
  | .subroutine => do
    let named ← (dropWord? (asciiLower kind.opener) body).bind dropBlanks?
    let name ← takeName? (fun c => isAsciiLetter c || c == '_') named
    some ⟨kind, number, column, body.length - named.length + name.length, some name⟩
  | _ => (dropKeyword? kind.opener body).map fun _ => ⟨kind, number, column, kind.opener.length, none⟩

/-- Whether the line's first word closes blocks of that kind. -/
def closesOn (kind : BlockKind) (line : Text) : Bool :=
  (dropKeyword? kind.closer (trimStart line)).isSome

/-- The openers without a closer after one more line, latest first, for one kind. A closer takes the
latest opener of its kind; one with nothing to close is passed over. -/
def stepKind (number : Nat) (line : Text) (unclosed : List BlockOpener) (kind : BlockKind) :
    List BlockOpener :=
  if closesOn kind line then unclosed.eraseP (·.kind == kind)
  else
    match openerOn? kind number line with
    | some b => b :: unclosed
    | none => unclosed

def stepLine (number : Nat) (line : Text) (unclosed : List BlockOpener) : List BlockOpener :=
  BlockKind.all.foldl (stepKind number line) unclosed

def unclosedFrom (number : Nat) (unclosed : List BlockOpener) : List Text → List BlockOpener
  | [] => unclosed.reverse
  | line :: lines => unclosedFrom (number + 1) (stepLine number line unclosed) lines

/-- The block openers that no later line closes, in order of position. Each kind is matched for
itself. -/
def unclosedBlocks (lines : List Text) : List BlockOpener := unclosedFrom 0 [] lines

def unclosedBlocksOf (source : Text) : List BlockOpener := unclosedBlocks (editorLines source)

end BasicWorkbench
