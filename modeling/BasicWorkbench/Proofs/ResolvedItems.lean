import BasicWorkbench.ItemFields
import BasicWorkbench.Proofs.NamedData
import BasicWorkbench.Proofs.ObjectFields
import BasicWorkbench.Proofs.OfferedItems
import BasicWorkbench.Proofs.Outcomes

namespace BasicWorkbench

def CompletionItem.noted (item : CompletionItem) : Option ItemNotes → CompletionItem
  | some notes => { item with detail := some notes.detail, documentation := some notes.documentation }
  | none => item

def notedFields (fields : List (Text × Json)) : Option ItemNotes → List (Text × Json)
  | some notes =>
    setField "documentation" (.str notes.documentation) (setField "detail" (.str notes.detail) fields)
  | none => fields

theorem CompletionItem.resolve_eq (item : CompletionItem) : item.resolve = item.noted <$> notesFor item.data := by
  unfold resolve
  cases notesFor item.data with
  | error f => rfl
  | ok notes => cases notes <;> rfl

theorem resolveFields_eq (fields : List (Text × Json)) :
    resolveFields fields = notedFields fields <$> notesFor (fieldOf fields "data") := by
  unfold resolveFields
  cases notesFor (fieldOf fields "data") with
  | error f => rfl
  | ok notes => cases notes <;> rfl

theorem notesFor_of_lookups {fields others : List (Text × Json)}
    (same : ∀ name, others.lookup name = fields.lookup name) : notesFor (.obj others) = notesFor (.obj fields) := by
  have read : ∀ name, fieldOf others name = fieldOf fields name := fun name => by rw [fieldOf, fieldOf, same]
  simp only [notesFor, read]

theorem ItemSource.json_plain (source : ItemSource) :
    ∃ fields, source.json = .obj fields ∧ (fields.map (·.1)).Nodup ∧ ∀ field ∈ fields, field.2.isSingle = true := by
  have pair : ∀ (a b : Text) (v w : Json), a ≠ b → v.isSingle = true → w.isSingle = true →
      ([(a, v), (b, w)].map (·.1)).Nodup ∧ ∀ field ∈ [(a, v), (b, w)], field.2.isSingle = true := by
    intro a b v w apart hv hw
    simp [apart, hv, hw]
  rcases source with index | name | ⟨owner, name⟩ | name | name
  · exact ⟨_, rfl, pair _ _ _ _ (by decide) rfl rfl⟩
  · exact ⟨_, rfl, pair _ _ _ _ (by decide) rfl rfl⟩
  · refine ⟨_, rfl, ?_, ?_⟩
    · simp
    · simp [Json.isSingle]
  · exact ⟨_, rfl, pair _ _ _ _ (by decide) rfl rfl⟩
  · exact ⟨_, rfl, pair _ _ _ _ (by decide) rfl rfl⟩

/-- The data of an offered item leads to the same notes in whatever order its members come back. -/
theorem notesFor_of_sameValue {source : ItemSource} {data : Json} (same : source.json.SameValue data) :
    notesFor data = notesFor source.json := by
  obtain ⟨fields, eq, once, single⟩ := source.json_plain
  rw [eq] at same ⊢
  obtain ⟨others, rfl, reordered⟩ := same.perm_of_single single
  exact notesFor_of_lookups (lookup_of_perm once reordered)

theorem notesFor_keyword {keyword : Text} {index : Nat} (listed : keywords[index]? = some keyword) :
    notesFor (ItemSource.keyword index).json = .ok (some ⟨keyword ++ " keyword", keywordNote keyword⟩) := by
  have found : keywordAt? (.int index) = some keyword := by simp [keywordAt?, listed]
  exact notesFor_of_names (.keyword rfl found)

theorem notesFor_object {object : LibraryObject} (known : object ∈ libraryObjects) :
    notesFor (ItemSource.object object.name).json =
      .ok (some ⟨object.name ++ " object", objectNote object.name⟩) :=
  notesFor_of_names (.object rfl rfl known)

theorem notesFor_member {owner name : Text} (ownerGiven : owner ≠ []) (nameGiven : name ≠ []) :
    notesFor (ItemSource.member owner name).json = .ok (some ⟨owner ++ "." ++ name, memberNote owner name⟩) := by
  have given : ((Json.str owner).isGiven && (Json.str name).isGiven) = true := by
    simp [Json.isGiven, ownerGiven, nameGiven]
  exact notesFor_of_names (.member rfl given rfl rfl)

theorem notesFor_variable (name : Text) : notesFor (ItemSource.variable name).json = .ok none := rfl

theorem notesFor_subroutine (name : Text) : notesFor (ItemSource.subroutine name).json = .ok none := rfl

theorem names_given : ∀ object ∈ libraryObjects, object.name ≠ [] ∧ ∀ member ∈ object.members, member ≠ [] := by
  -- The names are compared as literals; to spell them out takes much longer.
  simp only [libraryObjects, texts, List.forall_mem_cons, List.forall_mem_map, ne_eq, String.toList_eq_nil_iff,
    String.reduceEq, not_false_eq_true, List.not_mem_nil, false_implies, implies_true, and_self]

/-- The notes due to an item that was offered behind a line. What the tables have no text for is said in general
words. -/
def dueNotes (line : Text) (item : CompletionItem) : Option ItemNotes :=
  match item.kind with
  | some .keyword =>
    some ⟨item.label ++ " keyword",
      (keywordNotes.find? item.label).getD (item.label ++ " is a Small Basic keyword")⟩
  | some .object =>
    some ⟨item.label ++ " object", (objectNotes.find? item.label).getD (item.label ++ " is a Small Basic object")⟩
  | some .method | some .property =>
    (ownerAsked? line).join.map fun owner =>
      ⟨owner.name ++ "." ++ item.label, ((memberNotes.find? owner.name).bind (·.find? item.label)).getD
        (owner.name ++ "." ++ item.label ++ " is a Small Basic method or property")⟩
  | _ => none

theorem notesFor_offered {settings : Settings} {line : Text} {table : SymbolTable} {item : CompletionItem}
    (offered : Offered settings line table item) {data : Json} (same : item.data.SameValue data) :
    notesFor data = .ok (dueNotes line item) := by
  cases offered with
  | @ofMember object member asked listed =>
    have known := mem_of_ownerAsked asked
    have given := names_given object known
    have sent : (ItemSource.member object.name member).json.SameValue data := same
    rw [notesFor_of_sameValue sent, notesFor_member given.1 (given.2 member listed)]
    cases property : isProperty member <;> simp [dueNotes, memberItem, memberNote, property, asked]
  | @ofKeyword keyword index _ listed =>
    have sent : (ItemSource.keyword index).json.SameValue data := same
    rw [notesFor_of_sameValue sent, notesFor_keyword listed]
    rfl
  | @ofObject object _ known =>
    have sent : (ItemSource.object object.name).json.SameValue data := same
    rw [notesFor_of_sameValue sent, notesFor_object known]
    rfl
  | @ofVariable s _ _ =>
    have sent : (ItemSource.variable s.name).json.SameValue data := same
    rw [notesFor_of_sameValue sent, notesFor_variable]
    rfl
  | @ofSubroutine s _ _ =>
    have sent : (ItemSource.subroutine s.name).json.SameValue data := same
    rw [notesFor_of_sameValue sent, notesFor_subroutine]
    rfl

theorem CompletionItem.data_noted (item : CompletionItem) (notes : Option ItemNotes) :
    (item.noted notes).data = item.data := by
  cases notes <;> rfl

theorem CompletionItem.noted_noted (item : CompletionItem) (notes : Option ItemNotes) :
    (item.noted notes).noted notes = item.noted notes := by
  cases notes <;> rfl

theorem CompletionItem.eq_noted (item : CompletionItem) (notes : Option ItemNotes) :
    item.noted notes =
      { item with detail := (item.noted notes).detail, documentation := (item.noted notes).documentation } := by
  cases notes <;> rfl

theorem lookup_notedFields {name : Text} (notDetail : name ≠ "detail".toList)
    (notDocumentation : name ≠ "documentation".toList) (fields : List (Text × Json)) (notes : Option ItemNotes) :
    (notedFields fields notes).lookup name = fields.lookup name := by
  cases notes with
  | none => rfl
  | some notes =>
    rw [notedFields, lookup_setField, if_neg (Ne.symm notDocumentation), lookup_setField, if_neg (Ne.symm notDetail)]

theorem notedFields_notedFields (fields : List (Text × Json)) (notes : Option ItemNotes) :
    notedFields (notedFields fields notes) notes = notedFields fields notes := by
  cases notes with
  | none => rfl
  | some notes =>
    have detail : (notedFields fields (some notes)).lookup "detail".toList = some (.str notes.detail) := by
      rw [notedFields, lookup_setField, if_neg (by decide), lookup_setField, if_pos rfl]
    have documentation : (notedFields fields (some notes)).lookup "documentation".toList =
        some (.str notes.documentation) := by
      rw [notedFields, lookup_setField, if_pos rfl]
    calc notedFields (notedFields fields (some notes)) (some notes)
      _ = setField "documentation" (.str notes.documentation) (notedFields fields (some notes)) :=
        congrArg _ (setField_of_lookup detail)
      _ = notedFields fields (some notes) := setField_of_lookup documentation

/-- Items come back with the notes that they are due. Whatever an editor sends as an item, notes are filled in
once and nothing else of it changes. -/
theorem offered_items_resolved :
    (∀ settings line table, ∀ item ∈ completionsAfter settings line table, ∀ data, item.data.SameValue data →
      ({ item with data := data } : CompletionItem).resolve =
        .ok (({ item with data := data } : CompletionItem).noted (dueNotes line item))) ∧
    (∀ item resolved : CompletionItem, item.resolve = .ok resolved →
      resolved.resolve = .ok resolved ∧
        resolved = { item with detail := resolved.detail, documentation := resolved.documentation }) ∧
    ∀ fields resolved, resolveFields fields = .ok resolved →
      resolveFields resolved = .ok resolved ∧
        ∀ name, name ≠ "detail".toList → name ≠ "documentation".toList →
          resolved.lookup name = fields.lookup name := by
  refine ⟨?_, ?_, ?_⟩
  · intro settings line table item listed data same
    rw [CompletionItem.resolve_eq, notesFor_offered (offered_of_mem listed) same]
    rfl
  · intro item resolved h
    rw [CompletionItem.resolve_eq] at h
    obtain ⟨notes, found, rfl⟩ := map_eq_ok.mp h
    refine ⟨?_, item.eq_noted notes⟩
    rw [CompletionItem.resolve_eq, item.data_noted, found]
    exact congrArg Except.ok (item.noted_noted notes)
  · intro fields resolved h
    rw [resolveFields_eq] at h
    obtain ⟨notes, found, rfl⟩ := map_eq_ok.mp h
    refine ⟨?_, fun name hd hn => lookup_notedFields hd hn fields notes⟩
    have data : fieldOf (notedFields fields notes) "data" = fieldOf fields "data" := by
      rw [fieldOf, fieldOf, lookup_notedFields (by decide) (by decide)]
    rw [resolveFields_eq, data, found]
    exact congrArg Except.ok (notedFields_notedFields fields notes)

end BasicWorkbench
