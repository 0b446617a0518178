import BasicWorkbench.Completions

namespace BasicWorkbench

/-- A value as it stands in a detail line. Lists and objects cannot name anything. -/
def nameText (value : Json) : Except Fault Text :=
  match value with
  | .null => .ok "None"
  | .bool b => .ok (if b then "True" else "False")
  | .int i => .ok (intText i)
  | .real x => .ok x.text
  | .str s => .ok s
  | .arr _ | .obj _ => .error (.unusableKey value.kindWord)

def keywordAt? (index : Json) : Option Text :=
  match index with
  | .int i => if 0 ≤ i then keywords[i.toNat]? else none
  | .bool b => keywords[b.toNat]?
  | _ => none

def objectNamed? (name : Json) : Except Fault (Option Text) :=
  match name with
  | .str s => .ok (if libraryObjects.any (·.name == s) then some s else none)
  | .arr _ | .obj _ => .error (.unusableKey name.kindWord)
  | _ => .ok none

/-- The notes that the data of a completion item leads to. Data of another make leads to none. -/
def notesFor (data : Json) : Except Fault (Option ItemNotes) :=
  match data with
  | .obj fields =>
    match fieldOf fields "type" with
    | .str kind =>
      if kind = "keyword".toList then
        .ok ((keywordAt? (fieldOf fields "index")).map fun keyword =>
          ⟨keyword ++ " keyword", keywordNote keyword⟩)
      else if kind = "object".toList then do
        let object ← objectNamed? (fieldOf fields "name")
        .ok (object.map fun object => ⟨object ++ " object", objectNote object⟩)
      else if kind = "member".toList then do
        let object := fieldOf fields "objectName"
        let member := fieldOf fields "memberName"
        if object.isGiven && member.isGiven then do
          let object ← nameText object
          let member ← nameText member
          .ok (some ⟨object ++ "." ++ member, memberNote object member⟩)
        else .ok none
      else .ok none
    | _ => .ok none
  | _ => .ok none

def CompletionItem.resolve (item : CompletionItem) : Except Fault CompletionItem := do
  match ← notesFor item.data with
  | some notes =>
    .ok { item with detail := some notes.detail, documentation := some notes.documentation }
  | none => .ok item

end BasicWorkbench
