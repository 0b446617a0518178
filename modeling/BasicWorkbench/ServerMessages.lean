import BasicWorkbench.Analyzers
import BasicWorkbench.Compilations
import BasicWorkbench.ItemFields
import BasicWorkbench.Workspaces

namespace BasicWorkbench

/-- How the editor introduces itself: its options, the root of its work as a URI or, in older editors,
as a path, the units in which it can count characters, and whether it speaks of announcing that a
document is about to be saved, and of waiting for edits then. -/
structure Greeting where
  options : Json
  rootUri : Option Text
  rootPath : Option Text
  units : List Text
  speaksOfSaving : Bool
  speaksOfWaiting : Bool
  deriving Repr

/-- What the server offers to an editor. It does nothing before a document is saved, and refuses to where
the editor spoke of it. -/
structure Offer where
  unit : PositionUnit
  refusesSaving : Bool
  refusesWaiting : Bool
  deriving DecidableEq, Repr

def Greeting.offer (g : Greeting) : Offer where
  unit := .agreed g.units
  refusesSaving := g.speaksOfSaving
  refusesWaiting := g.speaksOfWaiting

/-- A message of the editor. Items to resolve come as their fields; of folders that come and go the
URIs are told. -/
inductive ClientMessage where
  | greeting (g : Greeting)
  | greetingDone
  | shutdown
  | opened (uri text : Text)
  | changed (uri : Text) (edits : List TextEdit)
  | saved (uri : Text)
  | closed (uri : Text)
  | configured (configuration : Json)
  | completion (uri : Text) (position : Position)
  | resolveItem (fields : List (Text × Json))
  | outline (uri : Text)
  | command (name : Text) (arguments : List Json)
  | notebook (news : NotebookNews)
  | folders (uris : List Text)
  | progressCancelled (token : Json)
  | unhandled
  deriving Repr

def ClientMessage.isRequest : ClientMessage → Bool
  | .greeting _ | .shutdown | .completion _ _ | .resolveItem _ | .outline _ | .command _ _ => true
  | _ => false

inductive Answer where
  | nothing
  | offer (o : Offer)
  | completions (items : List CompletionItem)
  | item (fields : List (Text × Json))
  | outline (symbols : List Symbol)
  | compilation (result : Compilation)

/-- Why a message is not carried out to its end. -/
inductive Refusal where
  | fault (f : Fault)
  | unknownCommand (name : Text)
  deriving DecidableEq, Repr

def Refusal.code : Refusal → Int
  | .fault _ => -32603
  | .unknownCommand _ => -32602

def Refusal.message : Refusal → Text
  | .fault f => f.label ++ ": " ++ f.message
  | .unknownCommand name => "Invalid Params: Command name " ++ quoted name ++ " is not defined"

/-- A message of the server. Diagnostics replace those shown for their document. -/
inductive ServerMessage where
  | publish (uri : Text) (diagnostics : List Diagnostic)
  | showError (text : Text)
  | answer (a : Answer)
  | refuse (r : Refusal)

end BasicWorkbench
