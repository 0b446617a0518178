import BasicWorkbench.Diagnostics
import BasicWorkbench.PositionUnits
import BasicWorkbench.TextLines

namespace BasicWorkbench

/-- A change that an editor reports: new text for a stretch of the document, or for all of it. The
characters of the stretch count the unit agreed on with the editor. -/
structure TextEdit where
  span : Option Span
  text : Text
  deriving DecidableEq, Repr

def withShortBreak (line : Text) : Text :=
  match line.reverse with
  | '\n' :: '\r' :: rest => (('\n' :: rest)).reverse
  | _ => line

/-- A position as a line and a count of code points. Past the last line it is the end of that line;
past the end of a line it is in front of its last unit. -/
def locatePosition (u : PositionUnit) (lines : List Text) (p : Position) : Nat × Nat :=
  match lines[p.line]? with
  | some line =>
    let line := withShortBreak line
    let length := u.length line
    (p.line, u.column (if length < p.character then length - 1 else p.character) line)
  | none =>
    match lines.getLast? with
    | some last => (lines.length - 1, u.length last)
    | none => (0, 0)

def spliceLines (start stop : Nat × Nat) (text : Text) (number : Nat) : List Text → Text
  | [] => []
  | line :: lines =>
    let kept :=
      if number < start.1 || stop.1 < number then line
      else
        (if number = start.1 then line.take start.2 ++ text else []) ++
          (if number = stop.1 then line.drop stop.2 else [])
    kept ++ spliceLines start stop text (number + 1) lines

def TextEdit.apply (u : PositionUnit) (e : TextEdit) (document : Text) : Text :=
  match e.span with
  | none => e.text
  | some span =>
    let lines := outputLinesWithEnds document
    if lines.isEmpty then document ++ e.text
    else spliceLines (locatePosition u lines span.start) (locatePosition u lines span.stop) e.text 0 lines

end BasicWorkbench
