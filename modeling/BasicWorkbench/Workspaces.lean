import BasicWorkbench.Machines
import BasicWorkbench.OrderedMaps
import BasicWorkbench.TextEdits
import BasicWorkbench.Uris

namespace BasicWorkbench

/-- A text file as the editor would read it: nothing is repaired. -/
def strictText (bytes : List UInt8) : Except Fault Text :=
  match decodeStrict bytes with
  | .ok text => .ok (unifyBreaks text)
  | .error fault => .error (.notUtf8 fault)

def Machine.strictTextOf (m : Machine) (p : Path) : Except Fault Text :=
  if p.text.contains '\x00' then .error .nullInPath
  else
    match m.read p with
    | .ok bytes => strictText bytes
    | .error cause => .error (.system ⟨cause, p.text⟩)

/-- A document: one that is open in the editor, or a file that was not read yet. -/
inductive Document where
  | opened (text : Text)
  | onDisk (p : Path)
  deriving DecidableEq, Repr

def Document.text (m : Machine) : Document → Except Fault Text
  | .opened text => .ok text
  | .onDisk p => m.strictTextOf p

inductive DocumentNews where
  | opened (uri text : Text)
  | closed (uri : Text)
  | changed (uri : Text) (edits : List TextEdit)
  deriving DecidableEq, Repr

/-- What the editor has open: texts under the decoded URIs of their documents, and the decoded URIs of
notebooks. The unit is the one in which the editor's edits count. -/
structure Workspace where
  unit : PositionUnit
  documents : OrderedMap Text
  notebooks : List Text
  deriving DecidableEq, Repr

namespace Workspace

def empty (unit : PositionUnit) : Workspace := ⟨unit, [], []⟩

def document (w : Workspace) (uri : Text) : Except Fault Document :=
  match w.documents.find? (percentDecode uri) with
  | some text => .ok (.opened text)
  | none => (.onDisk ∘ .ofText) <$> pathOfUri uri

def hear (w : Workspace) : DocumentNews → Except Fault Workspace
  | .opened uri text => do
    let _ ← pathOfUri uri
    .ok { w with documents := w.documents.insert (percentDecode uri) text }
  | .closed uri => .ok { w with documents := w.documents.erase (percentDecode uri) }
  | .changed uri edits =>
    let key := percentDecode uri
    match w.documents.find? key with
    | some text =>
      let text := edits.foldl (fun text edit => edit.apply w.unit text) text
      .ok { w with documents := w.documents.insert key text }
    | none => if edits.isEmpty then .ok w else .error (.unknownDocument key)

def hearAll (w : Workspace) : List DocumentNews → Workspace × Except Fault Unit
  | [] => (w, .ok ())
  | news :: more =>
    match w.hear news with
    | .ok w => w.hearAll more
    | .error f => (w, .error f)

end Workspace

/-- A change of a notebook: the cells that it gains and loses, and the edits in its cells. -/
structure NotebookChange where
  opened : List (Text × Text)
  closed : List Text
  edited : List (Text × List TextEdit)
  deriving DecidableEq, Repr

inductive NotebookNews where
  | opened (uri : Text) (cells : List (Text × Text))
  | changed (uri : Text) (change : NotebookChange)
  | closed (uri : Text) (cells : List Text)
  deriving DecidableEq, Repr

namespace Workspace

/-- The workspace after news of a notebook. Its cells are documents like others; a change needs the
notebook open. -/
def hearOfNotebook (w : Workspace) : NotebookNews → Workspace × Except Fault Unit
  | .opened uri cells =>
    { w with notebooks := percentDecode uri :: w.notebooks }.hearAll
      (cells.map fun (cell, text) => .opened cell text)
  | .changed uri change =>
    let key := percentDecode uri
    if w.notebooks.contains key then
      w.hearAll (change.opened.map (fun (cell, text) => .opened cell text) ++ change.closed.map .closed ++
        change.edited.map fun (cell, edits) => .changed cell edits)
    else (w, .error (.unknownDocument key))
  | .closed uri cells =>
    { w with notebooks := w.notebooks.filter (· != percentDecode uri) }.hearAll (cells.map .closed)

end Workspace

end BasicWorkbench
