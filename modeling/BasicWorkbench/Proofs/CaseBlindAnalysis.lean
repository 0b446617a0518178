import Mathlib.Data.List.Forall2
import BasicWorkbench.Proofs.CaseBlindScans

namespace BasicWorkbench

theorem trailingName?_asciiLower (s : Text) : trailingName? (asciiLower s) = (trailingName? s).map asciiLower := by
  refine leftmost_asciiLower ?_ s
  intro s
  cases s with
  | nil => rfl
  | cons c s =>
    have under : (c.toLower == '_') = (c == '_') := by
      rw [Bool.eq_iff_iff, beq_iff_eq, beq_iff_eq]
      exact toLower_eq_iff rfl
    have name := takeWhile_asciiLower caseBlind_isNameChar (c :: s)
    have behind := dropWhile_asciiLower caseBlind_isNameChar (c :: s)
    rw [asciiLower_cons] at name behind ⊢
    simp only [name, behind, caseBlind_isAsciiLetter c, under, all_asciiLower caseBlind_isBlank]
    split
    · rfl
    · rfl

theorem findObject?_asciiLower (name : Text) : findObject? (asciiLower name) = findObject? name := by
  rw [findObject?, lower_asciiLower]
  rfl

theorem memberItems_asciiLower (settings : Settings) (beforeDot : Text) :
    memberItems settings (asciiLower beforeDot) = memberItems settings beforeDot := by
  have object : (trailingName? (asciiLower beforeDot)).bind findObject? =
      (trailingName? beforeDot).bind findObject? := by
    rw [trailingName?_asciiLower]
    cases trailingName? beforeDot with
    | none => rfl
    | some name => exact findObject?_asciiLower name
  rw [memberItems, object, memberItems]

/-- The texts differ at most in the case of letters of ASCII. -/
def SameLetters (s t : Text) : Prop := asciiLower s = asciiLower t

instance (s t : Text) : Decidable (SameLetters s t) := inferInstanceAs (Decidable (asciiLower s = asciiLower t))

structure Diagnostic.SameUpToCase (d e : Diagnostic) : Prop where
  span : d.span = e.span
  origin : d.origin = e.origin
  message : SameLetters d.message e.message

structure Symbol.SameUpToCase (s t : Symbol) : Prop where
  name : SameLetters s.name t.name
  kind : s.kind = t.kind
  span : s.span = t.span
  selection : s.selection = t.selection
  valueType : s.valueType = t.valueType

/-- The tables have the same keys in the same order, and up to case the same symbols under them. -/
structure SymbolTable.SameUpToCase (table other : SymbolTable) : Prop where
  knownVariables : List.Forall₂ (fun e f => e.1 = f.1 ∧ e.2.SameUpToCase f.2) table.knownVariables
    other.knownVariables
  knownSubroutines : List.Forall₂ (fun e f => e.1 = f.1 ∧ e.2.SameUpToCase f.2) table.knownSubroutines
    other.knownSubroutines

/-- The items are the same, except that the names of one that stands for a variable or a subroutine of the
document may differ in case. -/
structure CompletionItem.SameUpToNames (item other : CompletionItem) : Prop where
  kind : item.kind = other.kind
  detail : item.detail = other.detail
  documentation : item.documentation = other.documentation
  call : item.call = other.call
  named : item.label = other.label ∧ item.data = other.data ∨
    ∃ source ∈ [ItemSource.variable, ItemSource.subroutine], item.data = (source item.label).json ∧
      other.data = (source other.label).json ∧ SameLetters item.label other.label

structure Analyzer.SameUpToCase (a b : Analyzer) : Prop where
  diagnostics : List.Forall₂ Diagnostic.SameUpToCase a.diagnostics b.diagnostics
  symbols : a.symbols.SameUpToCase b.symbols
  completions : ∀ line character, List.Forall₂ CompletionItem.SameUpToNames (a.completions line character)
    (b.completions line character)

theorem CompletionItem.SameUpToNames.refl (item : CompletionItem) : item.SameUpToNames item :=
  ⟨rfl, rfl, rfl, rfl, .inl ⟨rfl, rfl⟩⟩

theorem forall₂_of_map_eq {α β : Type} {f : α → β} {xs ys : List α} (h : xs.map f = ys.map f) :
    List.Forall₂ (fun x y => f x = f y) xs ys := by
  rw [← List.forall₂_eq_eq_eq] at h
  exact List.forall₂_map_right_iff.mp (List.forall₂_map_left_iff.mp h)

theorem BlockOpener.complaint_lowered (b : BlockOpener) :
    asciiLower b.lowered.complaint = asciiLower b.complaint := by
  unfold complaint lowered
  cases b.name with
  | none => rfl
  | some name => simp [asciiLower_idem]

theorem BlockOpener.diagnostic_of_lowered {b c : BlockOpener} (same : b.lowered = c.lowered) :
    b.diagnostic.SameUpToCase c.diagnostic := by
  obtain ⟨_, line, column, length, _⟩ := BlockOpener.mk.inj same
  refine ⟨?_, rfl, ?_⟩
  · simp only [diagnostic, endColumn, line, column, length]
  · have complaints := congrArg (fun o => asciiLower o.complaint) same
    simp only [complaint_lowered] at complaints
    exact complaints

theorem Symbol.sameUpToCase_of_lowered {s t : Symbol} (same : s.lowered = t.lowered) : s.SameUpToCase t := by
  obtain ⟨name, kind, span, selection, valueType⟩ := Symbol.mk.inj same
  exact ⟨name, kind, span, selection, valueType⟩

theorem OrderedMap.forall₂_of_lowered {m n : OrderedMap Symbol}
    (same : m.mapValues Symbol.lowered = n.mapValues Symbol.lowered) :
    List.Forall₂ (fun e f => e.1 = f.1 ∧ e.2.SameUpToCase f.2) m n := by
  refine (forall₂_of_map_eq same).imp fun e f entry => ?_
  obtain ⟨key, symbol⟩ := Prod.mk.inj entry
  exact ⟨key, Symbol.sameUpToCase_of_lowered symbol⟩

theorem SymbolTable.sameUpToCase_of_lowered {table other : SymbolTable}
    (same : table.lowered = other.lowered) : table.SameUpToCase other where
  knownVariables := OrderedMap.forall₂_of_lowered (congrArg SymbolTable.knownVariables same)
  knownSubroutines := OrderedMap.forall₂_of_lowered (congrArg SymbolTable.knownSubroutines same)

theorem variableItem_sameUpToNames {s t : Symbol} (same : s.SameUpToCase t) :
    (variableItem s).SameUpToNames (variableItem t) where
  kind := rfl
  detail := by simp only [variableItem, same.valueType]
  documentation := rfl
  call := rfl
  named := .inr ⟨.variable, List.mem_cons_self, rfl, rfl, same.name⟩

theorem subroutineItem_sameUpToNames (settings : Settings) {s t : Symbol} (same : s.SameUpToCase t) :
    (subroutineItem settings s).SameUpToNames (subroutineItem settings t) where
  kind := rfl
  detail := rfl
  documentation := rfl
  call := rfl
  named := .inr ⟨.subroutine, List.mem_cons_of_mem _ List.mem_cons_self, rfl, rfl, same.name⟩

theorem symbolItems_sameUpToNames (settings : Settings) {table other : SymbolTable}
    (same : table.SameUpToCase other) :
    List.Forall₂ CompletionItem.SameUpToNames (symbolItems settings table) (symbolItems settings other) := by
  unfold symbolItems OrderedMap.values
  refine List.rel_append ?_ ?_
  · simp only [List.map_map, List.forall₂_map_left_iff, List.forall₂_map_right_iff]
    exact same.knownVariables.imp fun e f entry => variableItem_sameUpToNames entry.2
  · simp only [List.map_map, List.forall₂_map_left_iff, List.forall₂_map_right_iff]
    exact same.knownSubroutines.imp fun e f entry => subroutineItem_sameUpToNames settings entry.2

theorem endsInDot_asciiLower (line : Text) : (asciiLower line).getLast? = some '.' ↔ line.getLast? = some '.' := by
  rw [asciiLower, List.getLast?_map]
  cases line.getLast? with
  | none => simp
  | some c => simp [toLower_eq_iff]

theorem completionsAfter_sameUpToNames (settings : Settings) {line line' : Text} {table other : SymbolTable}
    (letters : SameLetters line line') (same : table.SameUpToCase other) :
    List.Forall₂ CompletionItem.SameUpToNames (completionsAfter settings line table)
      (completionsAfter settings line' other) := by
  have dot : line.getLast? = some '.' ↔ line'.getLast? = some '.' := by
    rw [← endsInDot_asciiLower, letters, endsInDot_asciiLower]
  have members : memberItems settings line.dropLast = memberItems settings line'.dropLast := by
    have front : asciiLower line.dropLast = asciiLower line'.dropLast := by
      simpa only [asciiLower, List.map_dropLast] using congrArg List.dropLast letters
    rw [← memberItems_asciiLower, front, memberItems_asciiLower]
  have library : ∀ items, List.Forall₂ CompletionItem.SameUpToNames items items :=
    fun items => List.forall₂_same.mpr fun item _ => .refl item
  simp only [completionsAfter, dot, members]
  split
  · exact library _
  · exact List.rel_append (library _) (symbolItems_sameUpToNames settings same)

theorem editorLines_of_sameLetters {s t : Text} (letters : SameLetters s t) :
    (editorLines s).map asciiLower = (editorLines t).map asciiLower := by
  rw [← editorLines_asciiLower, letters, editorLines_asciiLower]

theorem Analyzer.lineBefore_sameLetters {a b : Analyzer}
    (lines : a.lines.map asciiLower = b.lines.map asciiLower) (line character : Int) :
    SameLetters (a.lineBefore line character) (b.lineBefore line character) := by
  unfold lineBefore SameLetters
  split
  · rfl
  · have here : (a.lines[line.toNat]?).map asciiLower = (b.lines[line.toNat]?).map asciiLower := by
      rw [← List.getElem?_map, lines, List.getElem?_map]
    have whole : asciiLower ((a.lines[line.toNat]?).getD []) = asciiLower ((b.lines[line.toNat]?).getD []) := by
      simpa only [Option.getD_map] using congrArg (Option.getD · (asciiLower [])) here
    simpa only [asciiLower, List.map_take] using congrArg (List.take character.toNat) whole

/-- Texts that differ in the case of letters of ASCII are analyzed alike: the diagnostics and the symbols are at
the same places, and at every cursor position the same completions are offered, up to the case of the names that
the texts themselves define. -/
theorem analysis_sameUpToCase (settings : Settings) {s t : Text} (letters : SameLetters s t) :
    (analysis settings s).SameUpToCase (analysis settings t) := by
  have lines := editorLines_of_sameLetters letters
  have unclosed : (unclosedBlocks (editorLines s)).map BlockOpener.lowered =
      (unclosedBlocks (editorLines t)).map BlockOpener.lowered := by
    rw [← unclosedBlocks_asciiLower, lines, unclosedBlocks_asciiLower]
  have tables : (SymbolTable.empty.collect (editorLines s)).lowered =
      (SymbolTable.empty.collect (editorLines t)).lowered := by
    rw [← collect_asciiLower, lines, collect_asciiLower]
  have symbols := SymbolTable.sameUpToCase_of_lowered tables
  refine ⟨?_, symbols, fun line character => ?_⟩
  · refine List.forall₂_take _ ?_
    rw [blockDiagnostics, blockDiagnostics, List.forall₂_map_left_iff, List.forall₂_map_right_iff]
    exact (forall₂_of_map_eq unclosed).imp fun _ _ same => BlockOpener.diagnostic_of_lowered same
  · exact completionsAfter_sameUpToNames settings
      (Analyzer.lineBefore_sameLetters lines line character) symbols

/-- Capitals in keywords, in names and in values, and a Kelvin sign that stays as it is. -/
theorem analysis_of_capitals :
    let s : Text := "sub go
X = true
endsub
if y
 y = 1e3
K = stack."
    let t : Text := "SUB Go
x = TRUE
EndSub
IF y
 Y = 1E3
K = Stack."
    SameLetters s t ∧ (analysis .initial s).SameUpToCase (analysis .initial t) ∧
      ((analysis .initial t).completions 5 10).map (·.label) = ["GetCount", "PopValue", "PushValue"] := by
  intro s t
  have letters : SameLetters s t := by decide
  exact ⟨letters, analysis_sameUpToCase .initial letters, by decide +kernel⟩

end BasicWorkbench
