import BasicWorkbench.Proofs.CaseBlindValues
import BasicWorkbench.Proofs.SubroutineOutlines

namespace BasicWorkbench

def BlockOpener.lowered (b : BlockOpener) : BlockOpener := { b with name := b.name.map asciiLower }

theorem wordAndBlanks_asciiLower (w s : Text) :
    (dropWord? w (asciiLower s)).bind dropBlanks? = ((dropWord? w s).bind dropBlanks?).map asciiLower := by
  rw [dropWord?_asciiLower]
  cases dropWord? w s with
  | none => rfl
  | some rest => exact dropBlanks?_asciiLower rest

theorem openerOn?_asciiLower (kind : BlockKind) (number : Nat) (line : Text) :
    openerOn? kind number (asciiLower line) = (openerOn? kind number line).map BlockOpener.lowered := by
  have keyword : ∀ k : BlockKind,
      (dropKeyword? k.opener (trimStart (asciiLower line))).map (fun _ =>
        (⟨k, number, (asciiLower line).length - (trimStart (asciiLower line)).length, k.opener.length,
          none⟩ : BlockOpener)) =
      ((dropKeyword? k.opener (trimStart line)).map fun _ =>
        (⟨k, number, line.length - (trimStart line).length, k.opener.length, none⟩ : BlockOpener)).map
          BlockOpener.lowered := by
    intro k
    rw [trimStart_asciiLower, dropKeyword?_asciiLower, length_asciiLower, length_asciiLower, Option.map_map,
      Option.map_map]
    rfl
  cases kind with
  | subroutine =>
    simp only [openerOn?, trimStart_asciiLower, wordAndBlanks_asciiLower, length_asciiLower]
    cases (dropWord? (asciiLower BlockKind.subroutine.opener) (trimStart line)).bind dropBlanks? with
    | none => rfl
    | some named =>
      simp only [Option.map_some, Option.bind_eq_bind, Option.bind_some, takeName?_asciiLower]
      cases takeName? (fun c => isAsciiLetter c || c == '_') named with
      | none => rfl
      | some name => simp [BlockOpener.lowered]
  | conditional => exact keyword .conditional
  | whileLoop => exact keyword .whileLoop
  | forLoop => exact keyword .forLoop

theorem closesOn_asciiLower (kind : BlockKind) (line : Text) :
    closesOn kind (asciiLower line) = closesOn kind line := by
  rw [closesOn, closesOn, trimStart_asciiLower, dropKeyword?_asciiLower, Option.isSome_map]

theorem stepKind_asciiLower (number : Nat) (line : Text) (unclosed : List BlockOpener) (kind : BlockKind) :
    stepKind number (asciiLower line) (unclosed.map BlockOpener.lowered) kind =
      (stepKind number line unclosed kind).map BlockOpener.lowered := by
  rw [stepKind, stepKind, closesOn_asciiLower, openerOn?_asciiLower]
  split
  · exact List.eraseP_map
  · cases openerOn? kind number line with
    | none => rfl
    | some b => rfl

theorem stepLine_asciiLower (number : Nat) (line : Text) (unclosed : List BlockOpener) :
    stepLine number (asciiLower line) (unclosed.map BlockOpener.lowered) =
      (stepLine number line unclosed).map BlockOpener.lowered := by
  unfold stepLine
  induction BlockKind.all generalizing unclosed with
  | nil => rfl
  | cons kind kinds ih => rw [List.foldl_cons, List.foldl_cons, stepKind_asciiLower, ih]

theorem unclosedFrom_asciiLower (number : Nat) (unclosed : List BlockOpener) (lines : List Text) :
    unclosedFrom number (unclosed.map BlockOpener.lowered) (lines.map asciiLower) =
      (unclosedFrom number unclosed lines).map BlockOpener.lowered := by
  induction lines generalizing number unclosed with
  | nil => exact List.map_reverse.symm
  | cons line lines ih => rw [List.map_cons, unclosedFrom, unclosedFrom, stepLine_asciiLower, ih]

theorem unclosedBlocks_asciiLower (lines : List Text) :
    unclosedBlocks (lines.map asciiLower) = (unclosedBlocks lines).map BlockOpener.lowered :=
  unclosedFrom_asciiLower 0 [] lines

theorem wholeLine?_asciiLower (s : Text) : wholeLine? (asciiLower s) = (wholeLine? s).map asciiLower := by
  rw [wholeLine?, wholeLine?, takeWhile_asciiLower caseBlind_inLine, dropWhile_asciiLower caseBlind_inLine,
    atEnd_asciiLower]
  cases s.takeWhile inLine with
  | nil => rfl
  | cons c line =>
    simp only [asciiLower_cons]
    split
    · rfl
    · rfl

theorem assignedValue?_asciiLower (s : Text) :
    assignedValue? (asciiLower s) = (assignedValue? s).map asciiLower := by
  have starts : (restsAfter isBlank (asciiLower s)).reverse ++ [asciiLower s] =
      ((restsAfter isBlank s).reverse ++ [s]).map asciiLower := by
    rw [restsAfter_asciiLower caseBlind_isBlank, List.map_append, List.map_reverse]
    rfl
  have each : wholeLine? ∘ asciiLower = Option.map asciiLower ∘ wholeLine? := funext wholeLine?_asciiLower
  rw [assignedValue?, assignedValue?, starts, List.findSome?_map, each, ← List.map_findSome?]

def Assignment.lowered (a : Assignment) : Assignment := ⟨a.column, asciiLower a.name, asciiLower a.value⟩

theorem assignmentOn?_asciiLower (line : Text) :
    assignmentOn? (asciiLower line) = (assignmentOn? line).map Assignment.lowered := by
  simp only [assignmentOn?, trimStart_asciiLower]
  cases trimStart line with
  | nil => rfl
  | cons c rest =>
    simp only [asciiLower_cons, caseBlind_isAsciiLetter c, dropWhile_asciiLower caseBlind_isNameChar,
      takeWhile_asciiLower caseBlind_isNameChar, trimStart_asciiLower]
    cases isAsciiLetter c with
    | false => rfl
    | true =>
      cases trimStart (rest.dropWhile isNameChar) with
      | nil => rfl
      | cons d after =>
        by_cases equals : d = '='
        · subst equals
          have value := assignedValue?_asciiLower after
          change Option.map _ (assignedValue? (asciiLower after)) = Option.map _ (Option.map _ (assignedValue? after))
          rw [value, Option.map_map, Option.map_map]
          simp [Function.comp_def, Assignment.lowered]
        · have equals' : d.toLower ≠ '=' := fun same => equals ((toLower_eq_iff rfl).mp same)
          simp [equals, equals']

def SubroutineStart.lowered (s : SubroutineStart) : SubroutineStart := ⟨s.column, asciiLower s.name⟩

theorem subroutineStartOn?_asciiLower (line : Text) :
    subroutineStartOn? (asciiLower line) = (subroutineStartOn? line).map SubroutineStart.lowered := by
  simp only [subroutineStartOn?, trimStart_asciiLower, wordAndBlanks_asciiLower, length_asciiLower]
  cases (dropWord? "sub" (trimStart line)).bind dropBlanks? with
  | none => rfl
  | some named =>
    simp only [Option.map_some, Option.bind_eq_bind, Option.bind_some, takeName?_asciiLower]
    cases takeName? isAsciiLetter named with
    | none => rfl
    | some name =>
      have behind : ((asciiLower named).drop name.length).all isBlank = (named.drop name.length).all isBlank := by
        rw [asciiLower, ← List.map_drop]
        exact all_asciiLower caseBlind_isBlank _
      simp only [Option.map_some, Option.bind_some, length_asciiLower, behind]
      split
      · rfl
      · rfl

theorem endsSubroutine_asciiLower (line : Text) : endsSubroutine (asciiLower line) = endsSubroutine line := by
  rw [endsSubroutine, endsSubroutine, trimStart_asciiLower, dropWord?_asciiLower]
  cases dropWord? "endsub" (trimStart line) with
  | none => rfl
  | some rest => exact all_asciiLower caseBlind_isBlank rest

def Symbol.lowered (s : Symbol) : Symbol := { s with name := asciiLower s.name }

theorem Assignment.symbol_lowered (a : Assignment) (line : Nat) :
    a.lowered.symbol line = (a.symbol line).lowered := by
  simp [symbol, lowered, Symbol.lowered, ofLiteral_asciiLower]

theorem SubroutineStart.symbol_lowered (s : SubroutineStart) (first last : Nat) (line : Text) :
    s.lowered.symbol first last (asciiLower line) = (s.symbol first last line).lowered := by
  simp [symbol, lowered, Symbol.lowered]

namespace SymbolTable

def lowered (table : SymbolTable) : SymbolTable where
  knownVariables := table.knownVariables.mapValues Symbol.lowered
  knownSubroutines := table.knownSubroutines.mapValues Symbol.lowered

theorem addVariable_lowered (table : SymbolTable) (s : Symbol) :
    table.lowered.addVariable s.lowered = (table.addVariable s).lowered := by
  have key : lower s.lowered.name = lower s.name := lower_asciiLower s.name
  simp only [addVariable, key, lowered, OrderedMap.find?_mapValues]
  cases table.knownVariables.find? (lower s.name) with
  | none => simp only [Option.map_none, OrderedMap.insert_mapValues]
  | some known =>
    have kept := OrderedMap.insert_mapValues Symbol.lowered table.knownVariables (lower s.name)
      { known with valueType := s.valueType }
    exact congrArg (SymbolTable.mk · (table.knownSubroutines.mapValues Symbol.lowered)) kept

theorem addSubroutine_lowered (table : SymbolTable) (s : Symbol) :
    table.lowered.addSubroutine s.lowered = (table.addSubroutine s).lowered := by
  have key : lower s.lowered.name = lower s.name := lower_asciiLower s.name
  simp only [addSubroutine, key, lowered, OrderedMap.insert_mapValues]

theorem assign_lowered (table : SymbolTable) (number : Nat) (line : Text) :
    table.lowered.assign number (asciiLower line) = (table.assign number line).lowered := by
  simp only [assign, assignmentOn?_asciiLower]
  cases assignmentOn? line with
  | none => rfl
  | some a =>
    simp only [Option.map_some, Assignment.symbol_lowered, addVariable_lowered]

end SymbolTable

theorem collectFrom_asciiLower (table : SymbolTable) (started : Option (SubroutineStart × Nat)) (number : Nat)
    (lines : List Text) :
    collectFrom table.lowered (started.map fun s => (s.1.lowered, s.2)) number (lines.map asciiLower) =
      (collectFrom table started number lines).lowered := by
  induction lines generalizing table started number with
  | nil => rfl
  | cons line lines ih =>
    rw [List.map_cons, collectFrom_cons, collectFrom_cons, subroutineStartOn?_asciiLower,
      endsSubroutine_asciiLower, SymbolTable.assign_lowered]
    cases subroutineStartOn? line with
    | some s => exact ih (table.assign number line) (some (s, number)) (number + 1)
    | none =>
      cases started with
      | none => exact ih (table.assign number line) none (number + 1)
      | some s =>
        obtain ⟨s, first⟩ := s
        simp only [Option.map_none, Option.map_some, SubroutineStart.symbol_lowered,
          SymbolTable.addSubroutine_lowered]
        split
        · exact ih _ none (number + 1)
        · exact ih _ (some (s, first)) (number + 1)

theorem collect_asciiLower (lines : List Text) :
    SymbolTable.empty.collect (lines.map asciiLower) = (SymbolTable.empty.collect lines).lowered :=
  collectFrom_asciiLower .empty none 0 lines

end BasicWorkbench
