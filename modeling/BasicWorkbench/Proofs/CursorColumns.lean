import Mathlib.Data.List.Nodup
import BasicWorkbench.Proofs.HeldDocuments
import BasicWorkbench.Proofs.LineBreaks

namespace BasicWorkbench

/-- Whose members are asked for behind a line so far: those of the object in front of the dot, if it is one, and
none's where no dot comes last. -/
def ownerAsked? (line : Text) : Option (Option LibraryObject) :=
  if line.getLast? = some '.' then some ((trailingName? line.dropLast).bind findObject?) else none

theorem mem_of_ownerAsked {line : Text} {object : LibraryObject} (asked : ownerAsked? line = some (some object)) :
    object ∈ libraryObjects := by
  unfold ownerAsked? at asked
  split at asked
  next =>
    obtain ⟨name, _, found⟩ := Option.bind_eq_some_iff.mp (Option.some.inj asked)
    exact List.mem_of_find?_eq_some found
  next => cases asked

theorem completionsAfter_eq (settings : Settings) (line : Text) (table : SymbolTable) :
    completionsAfter settings line table =
      match ownerAsked? line with
      | some (some object) => object.members.map (memberItem settings object.name)
      | some none => []
      | none => keywordItems ++ objectItems ++ symbolItems settings table := by
  unfold completionsAfter ownerAsked?
  split
  next =>
    unfold memberItems
    cases (trailingName? line.dropLast).bind findObject? <;> rfl
  next => rfl

theorem ItemSource.json_injective {a b : ItemSource} (same : a.json = b.json) : a = b := by
  cases a <;> cases b
  case keyword.keyword i j => simpa [json, Int.natCast_inj] using same
  all_goals simp_all [json]

theorem members_ne_nil : ∀ object ∈ libraryObjects, object.members ≠ [] := by decide +kernel

theorem nodup_objectNames : (libraryObjects.map (·.name)).Nodup := by decide +kernel

def firstSource : Option (Option LibraryObject) → Option ItemSource
  | none => some (.keyword 0)
  | some none => none
  | some (some object) => object.members.head?.map (.member object.name)

theorem head?_completionsAfter (settings : Settings) (line : Text) (table : SymbolTable) :
    (completionsAfter settings line table).head?.map (·.data) =
      (firstSource (ownerAsked? line)).map ItemSource.json := by
  rw [completionsAfter_eq]
  cases ownerAsked? line with
  | none => rfl
  | some found =>
    cases found with
    | none => rfl
    | some object =>
      simp only [firstSource]
      cases object.members <;> rfl

theorem firstSource_of_object {object : LibraryObject} (known : object ∈ libraryObjects) :
    ∃ member, firstSource (some (some object)) = some (.member object.name member) := by
  obtain ⟨member, members, eq⟩ := List.exists_cons_of_ne_nil (members_ne_nil object known)
  exact ⟨member, by rw [firstSource, eq]; rfl⟩

theorem eq_of_firstSource_eq {a b : Option (Option LibraryObject)}
    (ha : ∀ object, a = some (some object) → object ∈ libraryObjects)
    (hb : ∀ object, b = some (some object) → object ∈ libraryObjects) (same : firstSource a = firstSource b) :
    a = b := by
  rcases a with _ | _ | object
  · rcases b with _ | _ | other
    · rfl
    · cases same
    · obtain ⟨member, first⟩ := firstSource_of_object (hb other rfl)
      cases same.trans first
  · rcases b with _ | _ | other
    · cases same
    · rfl
    · obtain ⟨member, first⟩ := firstSource_of_object (hb other rfl)
      cases same.trans first
  · obtain ⟨member, first⟩ := firstSource_of_object (ha object rfl)
    rcases b with _ | _ | other
    · cases first.symm.trans same
    · cases first.symm.trans same
    · obtain ⟨member', first'⟩ := firstSource_of_object (hb other rfl)
      have sources := first.symm.trans (same.trans first')
      obtain ⟨names, _⟩ := ItemSource.member.inj (Option.some.inj sources)
      rw [List.inj_on_of_nodup_map nodup_objectNames (ha object rfl) (hb other rfl) names]

/-- Two lines are answered alike exactly if they ask for the members of the same object, for none's, or for
names in general. -/
theorem completionsAfter_eq_iff (settings : Settings) (table : SymbolTable) (a b : Text) :
    completionsAfter settings a table = completionsAfter settings b table ↔ ownerAsked? a = ownerAsked? b := by
  constructor
  · intro same
    have sources : firstSource (ownerAsked? a) = firstSource (ownerAsked? b) := by
      refine Option.map_injective (fun _ _ => ItemSource.json_injective) ?_
      rw [← head?_completionsAfter settings a table, ← head?_completionsAfter settings b table, same]
    exact eq_of_firstSource_eq (fun _ => mem_of_ownerAsked) (fun _ => mem_of_ownerAsked) sources
  · intro same
    rw [completionsAfter_eq, completionsAfter_eq, same]

theorem prefix_of_head?_splitBreaks (s : Text) : ∀ line ∈ (splitBreaks s).head?, line <+: s := by
  fun_induction splitBreaks s with
  | case1 => simp
  | case2 s ih => simp
  | case3 c s _ _ ih => simp
  | case4 c s _ _ ih =>
    cases lines : splitBreaks s with
    | nil => exact absurd lines (splitBreaks_ne_nil s)
    | cons first lines' =>
      rw [lines] at ih
      intro line hl
      obtain rfl : c :: first = line := Option.some.inj hl
      exact List.cons_prefix_cons.mpr ⟨rfl, ih first rfl⟩

theorem editorLines_eq (text : Text) : editorLines text = (splitBreaks text).modifyHead dropMark := by
  obtain ⟨line, lines, eq⟩ := List.exists_cons_of_ne_nil (splitBreaks_ne_nil text)
  cases text with
  | nil => rfl
  | cons c s =>
    by_cases mark : c = '\ufeff'
    · subst mark
      obtain ⟨line, lines, eq⟩ := List.exists_cons_of_ne_nil (splitBreaks_ne_nil s)
      have dropped : dropMark ('\ufeff' :: s) = s := rfl
      rw [editorLines, dropped, splitBreaks_cons (by decide), eq]
      rfl
    · have whole : dropMark (c :: s) = c :: s := if_neg mark
      have start := prefix_of_head?_splitBreaks (c :: s) line (by rw [eq]; rfl)
      have unmarked : dropMark line = line := by
        cases line with
        | nil => rfl
        | cons d line =>
          obtain ⟨rfl, _⟩ := List.cons_prefix_cons.mp start
          exact if_neg mark
      rw [editorLines, whole, eq, List.modifyHead_cons, unmarked]

theorem no_return_of_mem_splitBreaks (s : Text) : ∀ line ∈ splitBreaks s, ∀ c ∈ line, c ≠ '\r' :=
  fun line hl c hc => (no_break_of_mem_splitBreaks s line hl c hc).1

theorem prefix_withShortBreak {line raw : Text} (unbroken : ∀ c ∈ line, c ≠ '\r') (start : line <+: raw) :
    line <+: withShortBreak raw := by
  unfold withShortBreak
  split
  next rest reversed =>
    have whole : raw = rest.reverse ++ ['\r', '\n'] := by
      rw [← raw.reverse_reverse, reversed]
      simp
    have short : line <+: rest.reverse := by
      subst whole
      rcases List.prefix_or_prefix_of_prefix start (List.prefix_append _ _) with within | ⟨beyond, rfl⟩
      · exact within
      · cases beyond with
        | nil => simp
        | cons c beyond =>
          obtain ⟨rfl, _⟩ := List.cons_prefix_cons.mp ((List.prefix_append_right_inj _).mp start)
          exact absurd rfl (unbroken '\r' (by simp))
    rw [List.reverse_cons]
    exact short.trans (List.prefix_append _ _)
  next => exact start

/-- A line of a text as its analyzer has it: without a mark where it is the first. -/
def keptLine (number : Nat) (line : Text) : Text := if number = 0 then dropMark line else line

theorem getElem?_editorLines {text line : Text} {number : Nat} (there : (splitBreaks text)[number]? = some line) :
    (editorLines text)[number]? = some (keptLine number line) := by
  rw [editorLines_eq, List.getElem?_modifyHead, there]
  cases number <;> rfl

namespace PositionUnit

theorem length_append (u : PositionUnit) (s t : Text) : u.length (s ++ t) = u.length s + u.length t := by
  induction s with
  | nil => simp [length]
  | cons c s ih =>
    rw [List.cons_append, length, length, ih]
    omega

theorem length_le (u : PositionUnit) (s : Text) : s.length ≤ u.length s := by
  induction s with
  | nil => exact Nat.zero_le _
  | cons c s ih =>
    have wide := u.width_pos c
    rw [length, List.length_cons]
    omega

theorem length_eq_iff (u : PositionUnit) (s : Text) : u.length s = s.length ↔ ∀ c ∈ s, u.width c = 1 := by
  induction s with
  | nil => simp [length]
  | cons c s ih =>
    have wide := u.width_pos c
    have rest := u.length_le s
    rw [length, List.length_cons, List.forall_mem_cons, ← ih]
    omega

end PositionUnit

/-- An edit at the units of a line's first code points takes place behind these. -/
theorem locatePosition_units (u : PositionUnit) {lines : List Text} {number k : Nat} {line raw : Text}
    (unbroken : ∀ c ∈ line, c ≠ '\r') (there : lines[number]? = some raw) (start : line <+: raw)
    (inside : k ≤ line.length) :
    locatePosition u lines ⟨number, u.length (line.take k)⟩ = (number, k) := by
  obtain ⟨rest, short⟩ := prefix_withShortBreak unbroken start
  have front : line.take k = (withShortBreak raw).take k := by
    rw [← short, List.take_append_of_le_length inside]
  have within : k ≤ (withShortBreak raw).length := by
    rw [← short, List.length_append]
    omega
  have bound := u.length_append ((withShortBreak raw).take k) ((withShortBreak raw).drop k)
  rw [List.take_append_drop] at bound
  rw [locatePosition]
  simp only [there]
  rw [front, if_neg (by omega), u.column_length k _ within]

theorem spliceLines_of_behind (k : Nat) (new : Text) {lines : List Text} {number first : Nat}
    (behind : number < first) : spliceLines (number, k) (number, k) new first lines = lines.flatten := by
  induction lines generalizing first with
  | nil => rfl
  | cons line lines ih =>
    rw [spliceLines, ih (by omega)]
    simp [behind]

/-- A text that is put into a line stands behind its first code points, and all else is kept. -/
theorem spliceLines_insert (k : Nat) (new : Text) {lines : List Text} {number first : Nat} {raw : Text}
    (there : lines[number]? = some raw) :
    spliceLines (first + number, k) (first + number, k) new first lines =
      (lines.take number).flatten ++ (raw.take k ++ new ++ raw.drop k) ++ (lines.drop (number + 1)).flatten := by
  induction lines generalizing number first with
  | nil => cases there
  | cons line lines ih =>
    cases number with
    | zero =>
      obtain rfl : line = raw := Option.some.inj there
      rw [spliceLines, spliceLines_of_behind k new (by omega)]
      simp
    | succ number =>
      have later := @ih number (first + 1) there
      have same : first + 1 + number = first + (number + 1) := by omega
      rw [same] at later
      rw [spliceLines, later]
      simp

/-- Text that is put in at the units of a line's first code points comes to stand behind these. -/
theorem apply_insertion (u : PositionUnit) {text new : Text} {number k : Nat} {line raw : Text}
    (unbroken : ∀ c ∈ line, c ≠ '\r') (there : (outputLinesWithEnds text)[number]? = some raw)
    (start : line <+: raw) (inside : k ≤ line.length) :
    let place : Position := ⟨number, u.length (line.take k)⟩
    TextEdit.apply u ⟨some ⟨place, place⟩, new⟩ text =
      ((outputLinesWithEnds text).take number).flatten ++ (line.take k ++ new ++ raw.drop k) ++
        ((outputLinesWithEnds text).drop (number + 1)).flatten := by
  intro place
  have front : raw.take k = line.take k := by
    obtain ⟨rest, rfl⟩ := start
    exact List.take_append_of_le_length inside
  have located : locatePosition u (outputLinesWithEnds text) place = (number, k) :=
    locatePosition_units u unbroken there start inside
  have given : (outputLinesWithEnds text).isEmpty = false := by
    cases lines : outputLinesWithEnds text with
    | nil => rw [lines] at there; cases there
    | cons first rest => rfl
  have inserted := @spliceLines_insert k new _ _ 0 _ there
  rw [Nat.zero_add, front] at inserted
  simp only [TextEdit.apply, given, located, inserted]
  rfl

/-- Units and code points cut a line alike at its end, and where every character takes one unit. -/
theorem take_units_iff (u : PositionUnit) {line : Text} {k : Nat} (inside : k ≤ line.length) :
    line.take (u.length (line.take k)) = line.take k ↔
      k = line.length ∨ ∀ c ∈ line.take k, u.width c = 1 := by
  have count : (line.take k).length = k := List.length_take_of_le inside
  have wide := u.length_le (line.take k)
  rw [← u.length_eq_iff, count]
  rw [count] at wide
  constructor
  · intro same
    have lengths := congrArg List.length same
    rw [count, List.length_take] at lengths
    omega
  · intro h
    rcases h with full | narrow
    · rw [List.take_of_length_le (by omega), List.take_of_length_le (by omega)]
    · rw [narrow]

theorem sent_completion {s : ServerState} {uri : Text} {analyzer : Analyzer} (running : s.stopped = false)
    (found : s.analyzers.find? uri = some analyzer) (m : Machine) (env : Environment) (p : Position) :
    (s.receive m env (.completion uri p)).sent =
      [.answer (.completions (analyzer.completions p.line p.character))] := by
  simp only [ServerState.receive, running, ServerState.turn, ServerState.onCompletion, ServerState.analyzerFor, found]
  rfl

/-- A running server edits the text of an open document in the unit of its editor. -/
theorem text?_of_edited {s : ServerState} {uri text : Text} {w : Workspace} (running : s.stopped = false)
    (workspace : s.workspace = some w) (known : s.text? uri = some text) (m : Machine) (env : Environment)
    (edit : TextEdit) :
    (s.receive m env (.changed uri [edit])).state.text? uri = some (edit.apply w.unit text) := by
  have found : w.documents.find? (percentDecode uri) = some text := by
    simpa [ServerState.text?, workspace] using known
  simp [ServerState.receive, running, ServerState.turn, ServerState.onChanged, ServerState.hearing, workspace,
    Workspace.hear, found, ServerState.document, Workspace.document, OrderedMap.find?_insert, Document.text,
    ServerState.text?, ServerState.analyze, ServerState.forgetFindings]

theorem lineBefore_analysis (settings : Settings) {text line : Text} {number : Nat}
    (there : (splitBreaks text)[number]? = some line) (character : Nat) :
    (analysis settings text).lineBefore number character = (keptLine number line).take character := by
  have lines : (analysis settings text).lines = editorLines text := rfl
  have natural : ¬((number : Int) < 0) := by omega
  rw [Analyzer.lineBefore, if_neg natural, lines, Int.toNat_natCast, Int.toNat_natCast,
    getElem?_editorLines there]
  rfl

/-- The completions at the place behind the first code points of a line of an open document, told in the unit of the
editor. Text that is put in there comes to stand behind these code points, but for completions the line is cut behind
as many code points as there are units. The answer is right all the same if both parts of the line ask for the same,
and they are the same at the end of the line and where every character takes one unit. -/
theorem completion_right_iff {past : List Moment} {s : ServerState} (session : Session past s)
    (running : s.stopped = false) {uri text : Text} {w : Workspace} (held : IsHeld uri past)
    (workspace : s.workspace = some w) (known : s.text? uri = some text) {number k : Nat} {line : Text}
    (there : (splitBreaks text)[number]? = some line) (inside : k ≤ line.length) (m : Machine)
    (env : Environment) :
    let place : Position := ⟨number, w.unit.length (line.take k)⟩
    let cut := (keptLine number line).take place.character
    let sent := (s.receive m env (.completion uri place)).sent
    (∀ raw new, (outputLinesWithEnds text)[number]? = some raw → line <+: raw →
        (s.receive m env (.changed uri [⟨some ⟨place, place⟩, new⟩])).state.text? uri =
          some (((outputLinesWithEnds text).take number).flatten ++ (line.take k ++ new ++ raw.drop k) ++
            ((outputLinesWithEnds text).drop (number + 1)).flatten)) ∧
      (keptLine number line = line →
        (cut = line.take k ↔ k = line.length ∨ ∀ c ∈ line.take k, w.unit.width c = 1)) ∧
      ∃ settings, s.analyzers.find? uri = some (analysis settings text) ∧
        let answer := fun written => [ServerMessage.answer
          (.completions (completionsAfter settings written (analysis settings text).symbols))]
        sent = answer cut ∧ (sent = answer (line.take k) ↔ ownerAsked? cut = ownerAsked? (line.take k)) := by
  intro place cut sent
  obtain ⟨text', settings, known', analyzed⟩ := session.isAnalyzed held
  obtain rfl : text = text' := Option.some.inj (known.symm.trans known')
  have unbroken := no_return_of_mem_splitBreaks text line (List.mem_of_getElem? there)
  have answered : sent =
      [.answer (.completions (completionsAfter settings cut (analysis settings text).symbols))] := by
    have asked := sent_completion running analyzed m env place
    rwa [Analyzer.completions, lineBefore_analysis settings there] at asked
  refine ⟨?_, ?_, settings, analyzed, answered, ?_⟩
  · intro raw new numbered start
    rw [text?_of_edited running workspace known]
    exact congrArg some (apply_insertion w.unit unbroken numbered start inside)
  · intro unmarked
    simp only [cut, unmarked]
    exact take_units_iff w.unit inside
  · rw [answered, ← completionsAfter_eq_iff settings (analysis settings text).symbols]
    simp

/-- Behind a character of two units the dot counts as passed, and no members are offered. -/
theorem completion_behind_wide_character :
    ∃ past s w settings, Session past s ∧ s.stopped = false ∧ IsHeld "file:/p" past ∧ s.workspace = some w ∧
      w.unit = .utf16 ∧ s.text? "file:/p" = some "😀Math.)" ∧
      s.analyzers.find? "file:/p" = some (analysis settings "😀Math.)") ∧
      (let answer := fun written => [ServerMessage.answer
          (.completions (completionsAfter settings written (analysis settings "😀Math.)").symbols))]
        let sent := (s.receive ⟨[], [], []⟩ [] (.completion "file:/p" ⟨0, 7⟩)).sent
        w.unit.length "😀Math." = 7 ∧ sent = answer "😀Math.)" ∧ sent ≠ answer "😀Math.") := by
  let m : Machine := ⟨[], [], []⟩
  let greeting : ServerEvent := .heard m [] (.greeting ⟨.null, none, none, [], false, false⟩)
  let opening : ServerEvent := .heard m [] (.opened "file:/p" "😀Math.)")
  have session := Session.next opening (.next greeting (.start []) trivial) trivial
  have held : IsHeld "file:/p"
      [⟨((ServerState.fresh []).react greeting).1, opening⟩, ⟨.fresh [], greeting⟩] :=
    .inl ⟨⟨rfl, _, _, _, rfl, rfl, rfl⟩, m, [], _, rfl⟩
  have there : (splitBreaks "😀Math.)")[0]? = some ("😀Math.)" : Text) := rfl
  have inside : 6 ≤ ("😀Math.)" : Text).length := by decide
  obtain ⟨_, _, settings, analyzed, answered, right⟩ :=
    completion_right_iff session rfl held rfl rfl there inside m []
  refine ⟨_, _, _, settings, session, rfl, held, rfl, rfl, rfl, analyzed, by decide, answered, ?_⟩
  intro same
  have asked := right.mp same
  revert asked
  decide +kernel

end BasicWorkbench
