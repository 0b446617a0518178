import BasicWorkbench.CompletionNotes

namespace BasicWorkbench

namespace Json

/-- The data names something that there are notes on. Both names of a member are written out as they are. -/
inductive Names : Json → ItemNotes → Prop
  | keyword {fields keyword} : fieldOf fields "type" = .str "keyword" →
      keywordAt? (fieldOf fields "index") = some keyword →
      Names (.obj fields) ⟨keyword ++ " keyword", keywordNote keyword⟩
  | object {fields object} : fieldOf fields "type" = .str "object" →
      fieldOf fields "name" = .str object.name → object ∈ libraryObjects →
      Names (.obj fields) ⟨object.name ++ " object", objectNote object.name⟩
  | member {fields owner name} : fieldOf fields "type" = .str "member" →
      ((fieldOf fields "objectName").isGiven && (fieldOf fields "memberName").isGiven) = true →
      nameText (fieldOf fields "objectName") = .ok owner → nameText (fieldOf fields "memberName") = .ok name →
      Names (.obj fields) ⟨owner ++ "." ++ name, memberNote owner name⟩

/-- The data has a list or an object where a name is looked up. -/
inductive Misnames : Json → Prop
  | object {fields} : fieldOf fields "type" = .str "object" → (fieldOf fields "name").isSingle = false →
      Misnames (.obj fields)
  | member {fields} : fieldOf fields "type" = .str "member" →
      ((fieldOf fields "objectName").isGiven && (fieldOf fields "memberName").isGiven) = true →
      ((fieldOf fields "objectName").isSingle && (fieldOf fields "memberName").isSingle) = false →
      Misnames (.obj fields)

end Json

theorem nameText_of_single {v : Json} (single : v.isSingle = true) : ∃ text, nameText v = .ok text := by
  cases v with
  | arr items => cases single
  | obj fields => cases single
  | _ => exact ⟨_, rfl⟩

theorem nameText_of_several {v : Json} (several : v.isSingle = false) :
    nameText v = .error (.unusableKey v.kindWord) := by
  cases v with
  | arr items => rfl
  | obj fields => rfl
  | _ => cases several

theorem objectNamed?_of_several {v : Json} (several : v.isSingle = false) :
    objectNamed? v = .error (.unusableKey v.kindWord) := by
  cases v with
  | arr items => rfl
  | obj fields => rfl
  | _ => cases several

theorem objectNamed?_of_known {object : LibraryObject} (known : object ∈ libraryObjects) :
    objectNamed? (.str object.name) = .ok (some object.name) := by
  have listed : libraryObjects.any (·.name == object.name) = true :=
    List.any_eq_true.mpr ⟨object, known, beq_self_eq_true object.name⟩
  rw [objectNamed?, if_pos listed]

theorem objectNamed?_cases (v : Json) :
    (∃ object ∈ libraryObjects, v = .str object.name) ∨ objectNamed? v = .ok none ∨ v.isSingle = false := by
  cases v with
  | arr items => exact .inr (.inr rfl)
  | obj fields => exact .inr (.inr rfl)
  | str name =>
    cases listed : libraryObjects.any (·.name == name) with
    | true =>
      obtain ⟨object, known, same⟩ := List.any_eq_true.mp listed
      have named : object.name = name := beq_iff_eq.mp same
      exact .inl ⟨object, known, by rw [named]⟩
    | false =>
      refine .inr (.inl ?_)
      rw [objectNamed?, listed]
      rfl
  | _ => exact .inr (.inl rfl)

section Kinds

variable {fields : List (Text × Json)}

theorem notesFor_of_keyword (kind : fieldOf fields "type" = .str "keyword") :
    notesFor (.obj fields) = .ok ((keywordAt? (fieldOf fields "index")).map fun keyword =>
      ⟨keyword ++ " keyword", keywordNote keyword⟩) := by
  rw [notesFor, kind]
  rfl

theorem notesFor_of_object (kind : fieldOf fields "type" = .str "object") :
    notesFor (.obj fields) = (objectNamed? (fieldOf fields "name") >>= fun object =>
      .ok (object.map fun object => ⟨object ++ " object", objectNote object⟩)) := by
  rw [notesFor, kind]
  rfl

theorem notesFor_of_member (kind : fieldOf fields "type" = .str "member") :
    notesFor (.obj fields) =
      if (fieldOf fields "objectName").isGiven && (fieldOf fields "memberName").isGiven then do
        let object ← nameText (fieldOf fields "objectName")
        let member ← nameText (fieldOf fields "memberName")
        .ok (some ⟨object ++ "." ++ member, memberNote object member⟩)
      else .ok none := by
  rw [notesFor, kind]
  rfl

theorem notesFor_of_other
    (other : ∀ kind ∈ ["keyword".toList, "object".toList, "member".toList], fieldOf fields "type" ≠ .str kind) :
    notesFor (.obj fields) = .ok none := by
  simp only [notesFor]
  split
  next kind told =>
    have apart : ∀ name ∈ ["keyword".toList, "object".toList, "member".toList], kind ≠ name := by
      rintro name listed rfl
      exact other kind listed told
    rw [if_neg (apart _ (by simp)), if_neg (apart _ (by simp)), if_neg (apart _ (by simp))]
  next => rfl

end Kinds

theorem notesFor_of_names {data : Json} {notes : ItemNotes} (h : data.Names notes) :
    notesFor data = .ok (some notes) := by
  cases h with
  | keyword kind named =>
    rw [notesFor_of_keyword kind, named]
    rfl
  | object kind named known =>
    rw [notesFor_of_object kind, named, objectNamed?_of_known known]
    rfl
  | member kind given owner name =>
    rw [notesFor_of_member kind, if_pos given, owner, name]
    rfl

theorem notesFor_of_misnames {data : Json} (h : data.Misnames) :
    ∃ kind, notesFor data = .error (.unusableKey kind) := by
  cases h with
  | object kind several =>
    rw [notesFor_of_object kind, objectNamed?_of_several several]
    exact ⟨_, rfl⟩
  | @member fields kind given several =>
    rw [notesFor_of_member kind, if_pos given]
    cases single : (fieldOf fields "objectName").isSingle with
    | false =>
      rw [nameText_of_several single]
      exact ⟨_, rfl⟩
    | true =>
      rw [single, Bool.true_and] at several
      obtain ⟨owner, written⟩ := nameText_of_single single
      rw [written, nameText_of_several several]
      exact ⟨_, rfl⟩

theorem names_or_misnames_or_none (data : Json) :
    (∃ notes, data.Names notes) ∨ data.Misnames ∨ notesFor data = .ok none := by
  cases data with
  | obj fields =>
    by_cases keyword : fieldOf fields "type" = .str "keyword"
    · cases named : keywordAt? (fieldOf fields "index") with
      | some word => exact .inl ⟨_, .keyword keyword named⟩
      | none =>
        refine .inr (.inr ?_)
        rw [notesFor_of_keyword keyword, named]
        rfl
    by_cases object : fieldOf fields "type" = .str "object"
    · rcases objectNamed?_cases (fieldOf fields "name") with ⟨known, listed, named⟩ | none | several
      · exact .inl ⟨_, .object object named listed⟩
      · refine .inr (.inr ?_)
        rw [notesFor_of_object object, none]
        rfl
      · exact .inr (.inl (.object object several))
    by_cases member : fieldOf fields "type" = .str "member"
    · cases given : (fieldOf fields "objectName").isGiven && (fieldOf fields "memberName").isGiven with
      | false =>
        refine .inr (.inr ?_)
        rw [notesFor_of_member member, given]
        rfl
      | true =>
        cases single : (fieldOf fields "objectName").isSingle && (fieldOf fields "memberName").isSingle with
        | false => exact .inr (.inl (.member member given single))
        | true =>
          obtain ⟨first, second⟩ := Bool.and_eq_true_iff.mp single
          obtain ⟨owner, written⟩ := nameText_of_single first
          obtain ⟨name, written'⟩ := nameText_of_single second
          exact .inl ⟨_, .member member given written written'⟩
    have other : ∀ kind ∈ ["keyword".toList, "object".toList, "member".toList],
        fieldOf fields "type" ≠ .str kind := by
      simp only [List.forall_mem_cons]
      exact ⟨keyword, object, member, List.forall_mem_nil _⟩
    exact .inr (.inr (notesFor_of_other other))
  | _ => exact .inr (.inr rfl)

end BasicWorkbench
