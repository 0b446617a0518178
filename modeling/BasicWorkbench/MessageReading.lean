import BasicWorkbench.MessageShapes
import BasicWorkbench.RecordNames
import BasicWorkbench.ServerMessages

namespace BasicWorkbench

namespace Json

def get (v : Json) (name : Text) : Json :=
  match v with
  | .obj fields => fieldOf fields name
  | _ => .null

def has (v : Json) (name : Text) : Bool :=
  match v with
  | .obj fields => (fields.lookup name).isSome
  | _ => false

def asText? : Json → Option Text
  | .str s => some s
  | _ => none

def asText (v : Json) : Text := v.asText?.getD []

def asItems : Json → List Json
  | .arr items => items
  | _ => []

def asFields : Json → List (Text × Json)
  | .obj fields => fields
  | _ => []

def asCount : Json → Nat
  | .int i => i.toNat
  | _ => 0

end Json

def Position.ofValue (v : Json) : Position := ⟨(v.get "line").asCount, (v.get "character").asCount⟩

def Span.ofValue (v : Json) : Span := ⟨.ofValue (v.get "start"), .ofValue (v.get "end")⟩

def TextEdit.ofValue (v : Json) : TextEdit :=
  let span :=
    match v.get "range" with
    | .obj fields => some (Span.ofValue (.obj fields))
    | _ => none
  ⟨span, (v.get "text").asText⟩

namespace Json

def uris (v : Json) : List Text := v.asItems.map fun item => (item.get "uri").asText

def documents (v : Json) : List (Text × Text) :=
  v.asItems.map fun item => ((item.get "uri").asText, (item.get "text").asText)

def edits (v : Json) : List TextEdit := v.asItems.map .ofValue

end Json

def Greeting.ofValue (v : Json) : Greeting :=
  let capabilities := v.get "capabilities"
  let saving := (capabilities.get "textDocument").get "synchronization"
  { options := v.get "initializationOptions"
    rootUri := (v.get "rootUri").asText?
    rootPath := (v.get "rootPath").asText?
    units := ((capabilities.get "general").get "positionEncodings").asItems.filterMap Json.asText?
    speaksOfSaving := saving.has "willSave"
    speaksOfWaiting := saving.has "willSaveWaitUntil" }

def NotebookChange.ofValue (v : Json) : NotebookChange where
  opened := ((v.get "structure").get "didOpen").documents
  closed := ((v.get "structure").get "didClose").uris
  edited := (v.get "textContent").asItems.map fun content =>
    (((content.get "document").get "uri").asText, (content.get "changes").edits)

namespace ClientMessage

def ofValue (method : Text) (v : Json) : ClientMessage :=
  let uri := ((v.get "textDocument").get "uri").asText
  let notebook := ((v.get "notebookDocument").get "uri").asText
  match String.ofList method with
  | "initialize" => .greeting (.ofValue v)
  | "initialized" => .greetingDone
  | "textDocument/didOpen" => .opened uri ((v.get "textDocument").get "text").asText
  | "textDocument/didChange" => .changed uri (v.get "contentChanges").edits
  | "textDocument/didSave" => .saved uri
  | "textDocument/didClose" => .closed uri
  | "workspace/didChangeConfiguration" => .configured (v.get "settings")
  | "textDocument/completion" => .completion uri (.ofValue (v.get "position"))
  | "completionItem/resolve" => .resolveItem v.asFields
  | "textDocument/documentSymbol" => .outline uri
  | "workspace/executeCommand" => .command (v.get "command").asText (v.get "arguments").asItems
  | "workspace/didChangeWorkspaceFolders" =>
    .folders (((v.get "event").get "added").uris ++ ((v.get "event").get "removed").uris)
  | "window/workDoneProgress/cancel" => .progressCancelled (v.get "token")
  | "notebookDocument/didOpen" => .notebook (.opened notebook (v.get "cellTextDocuments").documents)
  | "notebookDocument/didChange" =>
    .notebook (.changed notebook (.ofValue ((v.get "change").get "cells")))
  | "notebookDocument/didClose" => .notebook (.closed notebook (v.get "cellTextDocuments").uris)
  | _ => .unhandled

/-- Whether what comes with an unknown method can be kept. An object is kept as a record, and so are the
objects in it: the name of its type, which it can tell itself, has to be free, and the names of fields
have to be able to stand together. Other values are kept as they are. -/
def canKeep : Json → Bool
  | .obj fields =>
    ((fields.lookup "type_name".toList).all fun name => isFreeName name.words) &&
      (Json.obj (fields.filter fun field => field.1 != "type_name".toList)).hasRecords
  | _ => true

/-- Reads a message. What it carries has to fit the shape for its method; only a message that ends the
session need carry nothing. Other requests come without a number to answer to and cannot be read. A
message of an unknown method has to carry something that can be kept, and nothing comes of it. -/
def read (method : Text) (params : Option Json) : Except Fault ClientMessage :=
  if method = "shutdown".toList then .ok .shutdown
  else if method = "exit".toList then .ok .unhandled
  else if unservedRequests.contains method || serverRequests.contains method then
    .error .unusableParams
  else
    match ValueShape.ofMethods.lookup method with
    | some shape =>
      match params.bind shape with
      | some v => .ok (.ofValue method v)
      | none => .error .unusableParams
    | none => if params.any canKeep then .ok .unhandled else .error .unreadableMessage

end ClientMessage

end BasicWorkbench
