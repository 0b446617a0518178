import BasicWorkbench.CompletionNotes
import BasicWorkbench.ValueShapes

namespace BasicWorkbench

namespace ValueShape

def position : ValueShape := object [.must "line" count, .must "character" count]

def range : ValueShape := object [.must "start" position, .must "end" position]

def rangeEdit : ValueShape := object [.must "newText" text, .must "range" range]

def itemEdit : ValueShape :=
  byMember "replace" (object [.must "newText" text, .must "insert" range, .must "replace" range]) rangeEdit

def languageText : ValueShape := object [.must "language" text, .must "value" text]

def documentation : ValueShape :=
  plainOr fun
    | .arr items => .arr <$> items.mapM (plainOr languageText)
    | value =>
      byMember "kind" (object [.must "kind" (oneOf ["plaintext", "markdown"]), .must "value" text])
        languageText value

def command : ValueShape :=
  object [.must "title" text, .may "tooltip" text, .must "command" text, .may "arguments" (listOf anything)]

def completionItem : ValueShape :=
  object [
    .must "label" text,
    .may "labelDetails" (object [.may "detail" text, .may "description" text]),
    .may "kind" single,
    .may "tags" (listOf (oneUpTo 1)),
    .may "detail" text,
    .may "documentation" documentation,
    .may "deprecated" flag,
    .may "preselect" flag,
    .may "sortText" text,
    .may "filterText" text,
    .may "insertText" text,
    .may "insertTextFormat" (oneUpTo 2),
    .may "insertTextMode" (oneUpTo 2),
    .may "textEdit" itemEdit,
    .may "textEditText" text,
    .may "additionalTextEdits" (listOf rangeEdit),
    .may "commitCharacters" (listOf text),
    .may "command" command,
    .may "data" anything]

end ValueShape

def resolveFields (fields : List (Text × Json)) : Except Fault (List (Text × Json)) := do
  match ← notesFor (fieldOf fields "data") with
  | some notes =>
    .ok (setField "documentation" (.str notes.documentation) (setField "detail" (.str notes.detail) fields))
  | none => .ok fields

end BasicWorkbench
