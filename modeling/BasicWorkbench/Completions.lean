import BasicWorkbench.Catalog
import BasicWorkbench.CatalogNotes
import BasicWorkbench.Settings
import BasicWorkbench.SymbolScan

namespace BasicWorkbench

inductive ItemKind where
  | method
  | function
  | variable
  | object
  | property
  | keyword
  deriving DecidableEq, Repr

def ItemKind.number : ItemKind → Nat
  | .method => 2
  | .function => 3
  | .variable => 6
  | .object => 7
  | .property => 10
  | .keyword => 14

/-- What a completion item remembers of its origin until its notes are asked for. -/
inductive ItemSource where
  | keyword (index : Nat)
  | object (name : Text)
  | member (owner name : Text)
  | variable (name : Text)
  | subroutine (name : Text)
  deriving DecidableEq, Repr

def ItemSource.json : ItemSource → Json
  | .keyword index => .obj [("type", .str "keyword"), ("index", .int index)]
  | .object name => .obj [("type", .str "object"), ("name", .str name)]
  | .member owner name =>
    .obj [("type", .str "member"), ("objectName", .str owner), ("memberName", .str name)]
  | .variable name => .obj [("type", .str "variable"), ("name", .str name)]
  | .subroutine name => .obj [("type", .str "subroutine"), ("name", .str name)]

structure ItemNotes where
  detail : Text
  documentation : Text
  deriving DecidableEq, Repr

/-- A completion item. `call` says that it is inserted with parentheses, between which the cursor is
put. -/
structure CompletionItem where
  label : Text
  kind : Option ItemKind
  data : Json
  detail : Option Text := none
  documentation : Option Text := none
  call : Bool := false

def CompletionItem.insertText (item : CompletionItem) : Option Text :=
  if item.call then some (item.label ++ "()") else none

structure EditorCommand where
  title : Text
  name : Text
  deriving DecidableEq, Repr

def parameterHints : EditorCommand where
  title := "Cursor between parentheses"
  name := "editor.action.triggerParameterHints"

def CompletionItem.command (item : CompletionItem) : Option EditorCommand :=
  if item.call then some parameterHints else none

def findObject? (name : Text) : Option LibraryObject :=
  libraryObjects.find? fun object => lower object.name == lower name

/-- The name at the end of a text, blanks behind it aside: the longest run of name characters
without the digits in front. -/
def trailingName? : Text → Option Text :=
  leftmost fun s =>
    match s with
    | [] => none
    | c :: _ =>
      if (isAsciiLetter c || c == '_') && (s.dropWhile isNameChar).all isBlank then
        some (s.takeWhile isNameChar)
      else none

def memberItem (settings : Settings) (object member : Text) : CompletionItem where
  label := member
  kind := some (if isProperty member then .property else .method)
  data := (ItemSource.member object member).json
  call := !isProperty member && settings.autoParentheses

def memberItems (settings : Settings) (beforeDot : Text) : List CompletionItem :=
  match (trailingName? beforeDot).bind findObject? with
  | some object => object.members.map (memberItem settings object.name)
  | none => []

def keywordItems : List CompletionItem :=
  keywords.zipIdx.map fun (keyword, index) => ⟨keyword, some .keyword, (ItemSource.keyword index).json,
    none, none, false⟩

def objectItems : List CompletionItem :=
  libraryObjects.map fun object => ⟨object.name, some .object, (ItemSource.object object.name).json,
    none, none, false⟩

def variableItem (s : Symbol) : CompletionItem where
  label := s.name
  kind := some .variable
  data := (ItemSource.variable s.name).json
  detail := some ("(" ++ s.valueType.getD "None" ++ ")")

def subroutineItem (settings : Settings) (s : Symbol) : CompletionItem where
  label := s.name
  kind := some .function
  data := (ItemSource.subroutine s.name).json
  call := settings.autoParentheses

def symbolItems (settings : Settings) (table : SymbolTable) : List CompletionItem :=
  table.knownVariables.values.map variableItem ++ table.knownSubroutines.values.map (subroutineItem settings)

/-- What can be written behind the line so far: members behind a dot, else keywords, objects and the
names of the document. -/
def completionsAfter (settings : Settings) (line : Text) (table : SymbolTable) : List CompletionItem :=
  if line.getLast? = some '.' then memberItems settings line.dropLast
  else keywordItems ++ objectItems ++ symbolItems settings table

end BasicWorkbench
