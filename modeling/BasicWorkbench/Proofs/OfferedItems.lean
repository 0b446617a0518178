import Mathlib.Data.List.DropRight
import BasicWorkbench.Proofs.CaseBlindAnalysis
import BasicWorkbench.Proofs.CursorColumns
import BasicWorkbench.Proofs.LineColumns
import BasicWorkbench.Proofs.WrittenLines

namespace BasicWorkbench

/-- The name at the end of a text, read from behind: blanks are passed over, name characters are taken, and
digits in front of them go. -/
def nameAtEnd (text : Text) : Text :=
  ((text.rdropWhile isBlank).rtakeWhile isNameChar).dropWhile Char.isDigit

theorem leftmost_append {α : Type} {f : Text → Option α} {front rest : Text}
    (quiet : ∀ t, t <:+ front → t ≠ [] → f (t ++ rest) = none) :
    leftmost f (front ++ rest) = leftmost f rest := by
  induction front with
  | nil => rfl
  | cons c front ih =>
    have here : f (c :: (front ++ rest)) = none := quiet (c :: front) List.suffix_rfl (by simp)
    have later := ih fun t ht => quiet t (ht.trans (List.suffix_cons c front))
    simpa only [List.cons_append, leftmost, here] using later

theorem startsName_iff {c : Char} :
    (isAsciiLetter c || c == '_') = true ↔ isNameChar c = true ∧ c.isDigit = false := by
  rw [Bool.or_eq_true, beq_iff_eq]
  constructor
  · intro h
    rcases h with letter | rfl
    · exact ⟨isNameChar_of_letter letter, not_digit_of_isAlpha letter⟩
    · exact ⟨rfl, rfl⟩
  · intro h
    obtain ⟨name, noDigit⟩ := h
    simpa [isNameChar, Char.isAlphanum, noDigit, isAsciiLetter] using name

def nameOnly? (s : Text) : Option Text :=
  if (s.head?.any fun c => isAsciiLetter c || c == '_') && (s.dropWhile isNameChar).all isBlank then
    some (s.takeWhile isNameChar)
  else none

theorem trailingName?_eq_leftmost : trailingName? = leftmost nameOnly? := by
  unfold trailingName?
  congr 1
  funext s
  cases s with
  | nil => rfl
  | cons c s => simp [nameOnly?]

theorem nameOnly?_of_name {c : Char} {name blanks : Text} (starts : isNameChar c = true ∧ c.isDigit = false)
    (chars : ∀ d ∈ name, isNameChar d = true) (blank : ∀ d ∈ blanks, isBlank d = true) :
    nameOnly? (c :: name ++ blanks) = some (c :: name) := by
  have all : ∀ d ∈ c :: name, isNameChar d = true := List.forall_mem_cons.mpr ⟨starts.1, chars⟩
  have solid : ∀ d ∈ blanks.head?, isNameChar d = false := by
    intro d hd
    rw [Bool.eq_false_iff]
    intro named
    exact absurd (blank d (List.mem_of_mem_head? hd)) (by simp [not_blank_of_isNameChar named])
  have taken : (c :: name ++ blanks).takeWhile isNameChar = c :: name := by
    rw [List.takeWhile_append_of_pos all]
    cases blanks with
    | nil => simp
    | cons d blanks => simp [solid d rfl]
  have left : (c :: name ++ blanks).dropWhile isNameChar = blanks := by
    rw [List.dropWhile_append_of_pos all]
    cases blanks with
    | nil => rfl
    | cons d blanks => simp [solid d rfl]
  have first : (isAsciiLetter c || c == '_') = true := startsName_iff.mpr starts
  rw [nameOnly?, taken, left]
  simp [first, List.all_eq_true.mpr blank]

theorem nameOnly?_of_no_start {c : Char} (s : Text) (other : isNameChar c = true → c.isDigit = true) :
    nameOnly? (c :: s) = none := by
  have first : (isAsciiLetter c || c == '_') = false := by
    rw [Bool.eq_false_iff]
    intro starts
    obtain ⟨name, noDigit⟩ := startsName_iff.mp starts
    exact absurd (other name) (by simp [noDigit])
  simp [nameOnly?, first]

theorem not_of_getLast?_rdropWhile {p : Char → Bool} {s : Text} {c : Char}
    (last : (s.rdropWhile p).getLast? = some c) : p c = false := by
  have some' : s.rdropWhile p ≠ [] := by
    intro empty
    simp [empty] at last
  have := List.rdropWhile_last_not p s some'
  rw [List.getLast?_eq_some_getLast some'] at last
  simpa [Option.some.inj last] using this

/-- A name with blanks behind it does not reach over a character of neither kind, nor over blanks to more. -/
theorem nameOnly?_of_gap {t rest : Text} {d : Char} (gap : isNameChar d = false)
    (solid : ¬∀ c ∈ d :: rest, isBlank c = true) : nameOnly? (t ++ d :: rest) = none := by
  have behind : (t ++ d :: rest).dropWhile isNameChar = t.dropWhile isNameChar ++ d :: rest := by
    rw [List.dropWhile_append]
    split
    next empty => simp [List.isEmpty_iff.mp empty, gap]
    next => rfl
  have more : ((t ++ d :: rest).dropWhile isNameChar).all isBlank = false := by
    rw [behind, List.all_append, Bool.and_eq_false_iff]
    exact .inr (Bool.eq_false_iff.mpr fun all => solid (List.all_eq_true.mp all))
  simp [nameOnly?, more]

/-- A text with the name at its end cut off: the digits in front of the name and the blanks behind it are parts of
their own, and what is in front of all these goes on into none of them. -/
structure NameCut (text front digits name blanks : Text) : Prop where
  parts : text = front ++ (digits ++ (name ++ blanks))
  edge : ∀ c ∈ front.getLast?, isNameChar c = false
  margin : digits = [] → name = [] → ∀ c ∈ front.getLast?, isBlank c = false
  numeric : ∀ c ∈ digits, isNameChar c = true ∧ c.isDigit = true
  chars : ∀ c ∈ name, isNameChar c = true
  starts : ∀ c ∈ name.head?, c.isDigit = false
  blank : ∀ c ∈ blanks, isBlank c = true

theorem exists_nameCut (text : Text) : ∃ front digits blanks, NameCut text front digits (nameAtEnd text) blanks := by
  let body := text.rdropWhile isBlank
  let run := body.rtakeWhile isNameChar
  have named : ∀ c ∈ run, isNameChar c = true := fun c hc => List.mem_rtakeWhile_imp hc
  have cut : run = run.takeWhile Char.isDigit ++ nameAtEnd text := (List.takeWhile_append_dropWhile).symm
  have split : body.rdropWhile isNameChar ++ run = body := List.rdropWhile_append_rtakeWhile
  refine ⟨body.rdropWhile isNameChar, run.takeWhile Char.isDigit, text.rtakeWhile isBlank, ?_, ?_, ?_, ?_, ?_, ?_, ?_⟩
  · have whole : body ++ text.rtakeWhile isBlank = text := List.rdropWhile_append_rtakeWhile
    rw [← List.append_assoc, ← List.append_assoc, List.append_assoc (body.rdropWhile isNameChar), ← cut, split, whole]
  · exact fun c hc => not_of_getLast?_rdropWhile hc
  · intro noDigits noName c hc
    have empty : run = [] := by rw [cut, noDigits, noName, List.append_nil]
    rw [empty, List.append_nil] at split
    exact not_of_getLast?_rdropWhile (split ▸ hc)
  · intro c hc
    exact ⟨named c ((List.takeWhile_sublist _).subset hc), List.mem_takeWhile_imp hc⟩
  · exact fun c hc => named c (cut ▸ List.mem_append_right _ hc)
  · intro c hc
    have first : (run.dropWhile Char.isDigit).head? = some c := hc
    have noDigit := List.head?_dropWhile_not Char.isDigit run
    rwa [first] at noDigit
  · exact fun c hc => List.mem_rtakeWhile_imp hc

namespace NameCut

variable {text front digits name blanks : Text}

theorem quiet_front (cut : NameCut text front digits name blanks) {t : Text} (within : t <:+ front) (some' : t ≠ []) :
    nameOnly? (t ++ (digits ++ (name ++ blanks))) = none := by
  obtain ⟨u, d, rfl⟩ := (List.eq_nil_or_concat t).resolve_left some'
  have last : d ∈ front.getLast? := by
    obtain ⟨v, hv⟩ := within
    simp [← hv]
  rw [List.concat_eq_append, List.append_assoc, List.singleton_append]
  refine nameOnly?_of_gap (cut.edge d last) ?_
  intro all
  obtain ⟨space, spaces⟩ := List.forall_mem_cons.mp all
  have none_of_named : ∀ s : Text, (∀ c ∈ s, isNameChar c = true ∧ isBlank c = true) → s = [] := by
    intro s both
    refine List.eq_nil_iff_forall_not_mem.mpr fun c hc => ?_
    exact absurd (both c hc).2 (by simp [not_blank_of_isNameChar (both c hc).1])
  have noDigits : digits = [] :=
    none_of_named _ fun c hc => ⟨(cut.numeric c hc).1, spaces c (by simp [hc])⟩
  have noName : name = [] := none_of_named _ fun c hc => ⟨cut.chars c hc, spaces c (by simp [hc])⟩
  exact absurd space (by simp [cut.margin noDigits noName d last])

theorem quiet_digits (cut : NameCut text front digits name blanks) {t : Text} (within : t <:+ digits)
    (some' : t ≠ []) : nameOnly? (t ++ (name ++ blanks)) = none := by
  obtain ⟨c, t, rfl⟩ := List.exists_cons_of_ne_nil some'
  exact nameOnly?_of_no_start _ fun _ => (cut.numeric c (within.mem List.mem_cons_self)).2

theorem quiet_blanks (cut : NameCut text front digits name blanks) {t : Text} (within : t <:+ blanks)
    (some' : t ≠ []) : nameOnly? (t ++ []) = none := by
  obtain ⟨c, t, rfl⟩ := List.exists_cons_of_ne_nil some'
  have space : isBlank c = true := cut.blank c (within.mem List.mem_cons_self)
  exact nameOnly?_of_no_start _ fun name => absurd space (by simp [not_blank_of_isNameChar name])

theorem trailingName?_eq (cut : NameCut text front digits name blanks) :
    trailingName? text = leftmost nameOnly? (name ++ blanks) := by
  rw [trailingName?_eq_leftmost, cut.parts, leftmost_append fun _ => cut.quiet_front,
    leftmost_append fun _ => cut.quiet_digits]

end NameCut

/-- The first place from the left at which a name with blanks behind it runs to the end is where the name that is
read from behind begins. -/
theorem trailingName?_eq (text : Text) :
    trailingName? text = if nameAtEnd text = [] then none else some (nameAtEnd text) := by
  obtain ⟨front, digits, blanks, cut⟩ := exists_nameCut text
  rw [cut.trailingName?_eq]
  split
  next empty =>
    rw [empty, List.nil_append, ← List.append_nil blanks, leftmost_append fun _ => cut.quiet_blanks]
    rfl
  next some' =>
    obtain ⟨c, name, eq⟩ := List.exists_cons_of_ne_nil some'
    rw [eq] at cut ⊢
    have starts : isNameChar c = true ∧ c.isDigit = false := ⟨cut.chars c List.mem_cons_self, cut.starts c rfl⟩
    exact leftmost_of_here
      (nameOnly?_of_name starts (fun d hd => cut.chars d (List.mem_cons_of_mem _ hd)) cut.blank)

example : nameAtEnd "x.é12Text_3 \t" = "Text_3".toList := by decide

theorem lower_of_ascii {s : Text} (ascii : ∀ c ∈ s, c.toNat < 128) : lower s = asciiLower s := by
  have small : ∀ afterCased, lowerFrom afterCased s = asciiLower s := by
    induction s with
    | nil => exact fun _ => rfl
    | cons c s ih =>
      intro afterCased
      obtain ⟨here, later⟩ := List.forall_mem_cons.mp ascii
      have noSigma : c ≠ '\u03a3' := by
        rintro rfl
        exact absurd here (by decide)
      rw [lowerFrom, if_neg noSigma, lowerChar, if_pos here, ih later]
      rfl
  exact small false

theorem ascii_of_objectName {object : LibraryObject} (known : object ∈ libraryObjects) :
    ∀ c ∈ object.name, c.toNat < 128 := by
  have all : libraryObjects.all (fun object => object.name.all (·.toNat < 128)) = true := by decide +kernel
  intro c hc
  simpa using List.all_eq_true.mp (List.all_eq_true.mp all object known) c hc

theorem nodup_small_objectNames : (libraryObjects.map fun object => asciiLower object.name).Nodup := by
  decide +kernel

theorem isNameChar_of_mem_nameAtEnd {text : Text} {c : Char} (hc : c ∈ nameAtEnd text) : isNameChar c = true :=
  List.mem_rtakeWhile_imp ((List.dropWhile_suffix _).mem hc)

theorem find?_eq_some_iff_of_unique {α : Type} {p : α → Bool} {l : List α} {a : α}
    (unique : ∀ b ∈ l, p b = true → p a = true → b = a) : l.find? p = some a ↔ a ∈ l ∧ p a = true := by
  constructor
  · intro h
    exact ⟨List.mem_of_find?_eq_some h, List.find?_some h⟩
  · intro h
    obtain ⟨listed, hit⟩ := h
    obtain ⟨b, found⟩ := Option.isSome_iff_exists.mp (List.find?_isSome.mpr ⟨a, listed, hit⟩)
    rw [found, unique b (List.mem_of_find?_eq_some found) (List.find?_some found) hit]

theorem findObject?_eq_some_iff {name : Text} {object : LibraryObject} (ascii : ∀ c ∈ name, c.toNat < 128) :
    findObject? name = some object ↔ object ∈ libraryObjects ∧ SameLetters object.name name := by
  have same : ∀ other ∈ libraryObjects, (lower other.name == lower name) = true ↔ SameLetters other.name name := by
    intro other known
    rw [beq_iff_eq, lower_of_ascii ascii, lower_of_ascii (ascii_of_objectName known)]
    rfl
  unfold findObject?
  by_cases known : object ∈ libraryObjects
  · rw [find?_eq_some_iff_of_unique, same object known]
    intro other known' hit' hit
    have small := ((same other known').mp hit').trans ((same object known).mp hit).symm
    exact List.inj_on_of_nodup_map nodup_small_objectNames known' known small
  · have missed : ∀ p, libraryObjects.find? p ≠ some object := fun p h => known (List.mem_of_find?_eq_some h)
    simp [known, missed]

/-- The object in front of a dot is the one of the name that is read from behind, in any case. -/
theorem objectNamed_iff {text : Text} {object : LibraryObject} :
    (trailingName? text).bind findObject? = some object ↔
      object ∈ libraryObjects ∧ SameLetters object.name (nameAtEnd text) := by
  have ascii : ∀ c ∈ nameAtEnd text, c.toNat < 128 :=
    fun c hc => ascii_of_isNameChar (isNameChar_of_mem_nameAtEnd hc)
  rw [← findObject?_eq_some_iff ascii, trailingName?_eq]
  split
  next empty =>
    have nameless : findObject? [] = none := by decide +kernel
    rw [empty, nameless]
    rfl
  next => rfl

theorem ownerAsked?_of_dot (text : Text) :
    ownerAsked? (text ++ ['.']) = some ((trailingName? text).bind findObject?) := by
  simp [ownerAsked?]

theorem ownerAsked?_eq_none_iff {line : Text} : ownerAsked? line = none ↔ line.getLast? ≠ some '.' := by
  simp [ownerAsked?]

/-- The items that are offered behind a line, each with what it was made of. -/
inductive Offered (settings : Settings) (line : Text) (table : SymbolTable) : CompletionItem → Prop
  | ofMember {object : LibraryObject} {member : Text} (asked : ownerAsked? line = some (some object))
      (listed : member ∈ object.members) : Offered settings line table (memberItem settings object.name member)
  | ofKeyword {keyword : Text} {index : Nat} (general : ownerAsked? line = none)
      (listed : keywords[index]? = some keyword) :
      Offered settings line table
        ⟨keyword, some .keyword, (ItemSource.keyword index).json, none, none, false⟩
  | ofObject {object : LibraryObject} (general : ownerAsked? line = none) (listed : object ∈ libraryObjects) :
      Offered settings line table
        ⟨object.name, some .object, (ItemSource.object object.name).json, none, none, false⟩
  | ofVariable {s : Symbol} (general : ownerAsked? line = none) (listed : s ∈ table.knownVariables.values) :
      Offered settings line table (variableItem s)
  | ofSubroutine {s : Symbol} (general : ownerAsked? line = none) (listed : s ∈ table.knownSubroutines.values) :
      Offered settings line table (subroutineItem settings s)

theorem offered_of_mem {settings : Settings} {line : Text} {table : SymbolTable} {item : CompletionItem}
    (listed : item ∈ completionsAfter settings line table) : Offered settings line table item := by
  rw [completionsAfter_eq] at listed
  cases asked : ownerAsked? line with
  | some found =>
    cases found with
    | none => simp [asked] at listed
    | some object =>
      simp only [asked, List.mem_map] at listed
      obtain ⟨member, hm, rfl⟩ := listed
      exact .ofMember asked hm
  | none =>
    simp only [asked, symbolItems, List.mem_append] at listed
    rcases listed with (inKeywords | inObjects) | inVariables | inSubroutines
    · obtain ⟨⟨keyword, index⟩, hk, rfl⟩ := List.mem_map.mp inKeywords
      exact .ofKeyword asked (List.mem_zipIdx_iff_getElem?.mp hk)
    · obtain ⟨object, ho, rfl⟩ := List.mem_map.mp inObjects
      exact .ofObject asked ho
    · obtain ⟨s, hs, rfl⟩ := List.mem_map.mp inVariables
      exact .ofVariable asked hs
    · obtain ⟨s, hs, rfl⟩ := List.mem_map.mp inSubroutines
      exact .ofSubroutine asked hs

/-- Calls are what is called, where the settings want parentheses. -/
theorem Offered.call_iff {settings : Settings} {line : Text} {table : SymbolTable} {item : CompletionItem}
    (offered : Offered settings line table item) :
    item.call = true ↔
      settings.autoParentheses = true ∧ (item.kind = some .method ∨ item.kind = some .function) := by
  cases offered with
  | @ofMember object member _ _ => cases property : isProperty member <;> simp [memberItem, property]
  | ofKeyword _ _ => simp
  | ofObject _ _ => simp
  | ofVariable _ _ => simp [variableItem]
  | ofSubroutine _ _ => simp [subroutineItem]

theorem CompletionItem.insertText_isSome_iff (item : CompletionItem) :
    item.insertText.isSome = true ↔ item.call = true := by
  cases call : item.call <;> simp [insertText, call]

theorem CompletionItem.command_eq_some_iff (item : CompletionItem) :
    item.command = some parameterHints ↔ item.call = true := by
  cases call : item.call <;> simp [command, call]

theorem offered_items_exact (settings : Settings) (line : Text) (table : SymbolTable) :
    (∀ text, line = text ++ ['.'] →
      (∀ object ∈ libraryObjects, SameLetters object.name (nameAtEnd text) →
        (completionsAfter settings line table).map (·.label) = object.members) ∧
      ((∀ object ∈ libraryObjects, ¬SameLetters object.name (nameAtEnd text)) →
        completionsAfter settings line table = []) ∧
      ∀ item ∈ completionsAfter settings line table,
        item.kind = some .method ∨ item.kind = some .property) ∧
    (line.getLast? ≠ some '.' →
      (completionsAfter settings line table).map (·.label) =
        keywords ++ libraryObjects.map (·.name) ++ table.knownVariables.values.map (·.name) ++
          table.knownSubroutines.values.map (·.name)) ∧
    ∀ item ∈ completionsAfter settings line table,
      (item.insertText.isSome = true ↔ item.command = some parameterHints) ∧
      (item.command = some parameterHints ↔
        settings.autoParentheses = true ∧ (item.kind = some .method ∨ item.kind = some .function)) ∧
      ∀ text ∈ item.insertText, text = item.label ++ "()".toList := by
  refine ⟨?_, ?_, ?_⟩
  · rintro text rfl
    have asked := ownerAsked?_of_dot text
    refine ⟨?_, ?_, ?_⟩
    · intro object known spelled
      rw [objectNamed_iff.mpr ⟨known, spelled⟩] at asked
      rw [completionsAfter_eq, asked, List.map_map]
      exact List.map_id _
    · intro nobody
      have missed : (trailingName? text).bind findObject? = none := by
        refine Option.eq_none_iff_forall_ne_some.mpr fun object found => ?_
        obtain ⟨known, spelled⟩ := objectNamed_iff.mp found
        exact nobody object known spelled
      rw [missed] at asked
      rw [completionsAfter_eq, asked]
    · intro item listed
      cases offered_of_mem listed with
      | @ofMember object member _ _ => cases property : isProperty member <;> simp [memberItem, property]
      | ofKeyword general _ => simp [asked] at general
      | ofObject general _ => simp [asked] at general
      | ofVariable general _ => simp [asked] at general
      | ofSubroutine general _ => simp [asked] at general
  · intro other
    rw [completionsAfter_eq, ownerAsked?_eq_none_iff.mpr other]
    have ofKeywords : keywordItems.map (·.label) = keywords := by
      rw [keywordItems, List.map_map]
      exact List.zipIdx_map_fst 0 keywords
    have ofObjects : objectItems.map (·.label) = libraryObjects.map (·.name) := by
      rw [objectItems, List.map_map]
      rfl
    have ofSymbols : (symbolItems settings table).map (·.label) =
        table.knownVariables.values.map (·.name) ++ table.knownSubroutines.values.map (·.name) := by
      rw [symbolItems, List.map_append, List.map_map, List.map_map]
      rfl
    rw [List.map_append, List.map_append, ofKeywords, ofObjects, ofSymbols, List.append_assoc, List.append_assoc]
    simp
  · intro item listed
    rw [item.insertText_isSome_iff, item.command_eq_some_iff, (offered_of_mem listed).call_iff]
    refine ⟨Iff.rfl, Iff.rfl, ?_⟩
    intro text inserted
    unfold CompletionItem.insertText at inserted
    split at inserted
    next => exact (Option.some.inj inserted).symm
    next => cases inserted

end BasicWorkbench
