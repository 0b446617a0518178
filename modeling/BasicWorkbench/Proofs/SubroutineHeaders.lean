import BasicWorkbench.Proofs.CollectedSymbols

namespace BasicWorkbench

/-- The header of a subroutine on a line: the keyword in letters of any case, blanks and the name, from the column
of the opener that the block check finds there to its end. -/
structure Header (line : Text) (b : BlockOpener) (gap name : Text) : Prop where
  opener : openerOn? .subroutine b.line line = some b
  named : b.name = some name
  apart : gap ≠ []
  blank : ∀ c ∈ gap, isBlank c = true
  parts : ∃ indent spelled rest,
    FirstWord (asciiLower BlockKind.subroutine.opener) line indent spelled (gap ++ (name ++ rest)) ∧
      b.column = indent.length ∧ b.endColumn = (indent ++ (spelled ++ (gap ++ name))).length

theorem Header.endColumn_eq {line gap name : Text} {b : BlockOpener} (header : Header line b gap name) :
    b.endColumn = b.column + 3 + gap.length + name.length := by
  obtain ⟨indent, spelled, rest, first, column, last⟩ := header.parts
  have keyword : 3 = spelled.length := first.length_eq
  rw [last, column, List.length_append, List.length_append, List.length_append]
  omega

theorem header_of_start {line : Text} {start : SubroutineStart} (number : Nat)
    (starts : subroutineStartOn? line = some start) :
    ∃ b gap, Header line b gap start.name ∧ b.line = number ∧ b.column = start.column := by
  rw [subroutineStartOn?_eq number] at starts
  obtain ⟨b, found, rfl⟩ := Option.map_eq_some_iff.mp starts
  have opener := (Option.filter_eq_some_iff.mp found).1
  obtain ⟨kind, place, here⟩ := openerOn?_eq_some_iff.mp opener
  cases here with
  | keyword number other first ends => exact absurd kind other
  | @subroutine number' indent spelled gap rest c first apart blank named =>
    obtain rfl : number' = number := place
    have run : c :: rest = nameRun (c :: rest) ++ (c :: rest).drop (nameRun (c :: rest)).length :=
      (List.prefix_iff_eq_append.mp (List.takeWhile_prefix _)).symm
    rw [run] at first
    let b : BlockOpener :=
      ⟨.subroutine, number', indent.length, spelled.length + gap.length + (nameRun (c :: rest)).length,
        some (nameRun (c :: rest))⟩
    refine ⟨b, gap, ⟨opener, rfl, apart, blank, indent, spelled, _, first, rfl, ?_⟩, rfl, rfl⟩
    simp only [b, BlockOpener.endColumn, BlockOpener.start, Option.getD_some, List.length_append]
    omega

namespace SymbolTable

theorem mem_subroutines_foldl_add {additions : List Addition} {table : SymbolTable} {s : Symbol}
    (known : s ∈ (additions.foldl add table).knownSubroutines.values) :
    s ∈ table.knownSubroutines.values ∨ s ∈ subroutinesTold additions := by
  induction additions generalizing table with
  | nil => exact .inl known
  | cons addition additions ih =>
    have later : ∀ {s}, s ∈ subroutinesTold additions → s ∈ subroutinesTold (addition :: additions) := by
      intro s told
      rw [← List.singleton_append, subroutinesTold_append]
      exact List.mem_append_right _ told
    rcases ih known with before | told
    · cases addition with
      | assigned v => exact .inl before
      | declared d =>
        rcases OrderedMap.mem_values_insert before with rfl | known
        · exact .inr List.mem_cons_self
        · exact .inl known
    · exact .inr (later told)

end SymbolTable

theorem start_of_mem_subroutinesOn {lines : List Text} {s : Symbol} (declared : s ∈ subroutinesOn lines) :
    ∃ first last line closing start, lines[first]? = some line ∧ subroutineStartOn? line = some start ∧
      s = start.symbol first last closing := by
  obtain ⟨pair, _, between⟩ := List.mem_filterMap.mp declared
  obtain ⟨start, starts, between⟩ := Option.bind_eq_some_iff.mp between
  obtain ⟨closing, _, between⟩ := Option.bind_eq_some_iff.mp between
  obtain ⟨line, there, found⟩ := Option.bind_eq_some_iff.mp starts
  exact ⟨pair.1, pair.2, line, closing, start, there, found, (Option.some.inj between).symm⟩

/-- The part to select of a subroutine starts with its header and ends as if one blank stood between keyword and
name: it covers the header exactly if there is one, and falls short of it by the others. -/
theorem selection_covers_header_iff {table : SymbolTable} {lines : List Text} {s : Symbol}
    (recorded : s ∈ (table.collect lines).knownSubroutines.values) (new : s ∉ table.knownSubroutines.values) :
    ∃ line b gap, lines[b.line]? = some line ∧ Header line b gap s.name ∧
      s.span.start = ⟨b.line, b.column⟩ ∧
      s.selection = .onLine b.line b.column (b.endColumn - (gap.length - 1)) ∧
      (s.selection = .onLine b.line b.column b.endColumn ↔ gap.length = 1) := by
  rw [SymbolTable.collect, SymbolTable.collectFrom_eq_foldl] at recorded
  have told := (SymbolTable.mem_subroutines_foldl_add recorded).resolve_left new
  rw [subroutinesTold_linesAdd] at told
  obtain ⟨first, last, line, closing, start, there, starts, rfl⟩ := start_of_mem_subroutinesOn told
  obtain ⟨b, gap, header, rfl, column⟩ := header_of_start first starts
  have length := header.endColumn_eq
  have apart : 0 < gap.length := List.length_pos_iff.mpr header.apart
  have selected : (start.symbol b.line last closing).selection =
      .onLine b.line b.column (b.column + 4 + start.name.length) := by
    rw [column]
    rfl
  refine ⟨line, b, gap, there, header, ?_, ?_, ?_⟩
  · rw [column]
    rfl
  · rw [selected, length]
    congr 1
    omega
  · rw [selected, length, Span.onLine, Span.onLine]
    simp only [Span.mk.injEq, Position.mk.injEq, true_and]
    omega

/-- With two blanks behind the keyword the last letter of the name is left out. -/
theorem selection_short_of_wide_gap :
    let lines : List Text := ["Sub  Foo", "EndSub"]
    let s : Symbol := ⟨"Foo", .subroutine, ⟨⟨0, 0⟩, ⟨1, 6⟩⟩, .onLine 0 0 7, none⟩
    let b : BlockOpener := ⟨.subroutine, 0, 0, 8, some "Foo"⟩
    s ∈ (SymbolTable.empty.collect lines).knownSubroutines.values ∧
      s ∉ SymbolTable.empty.knownSubroutines.values ∧
      ∃ gap, Header "Sub  Foo" b gap s.name ∧ s.selection ≠ .onLine b.line b.column b.endColumn := by
  intro lines s b
  have recorded : s ∈ (SymbolTable.empty.collect lines).knownSubroutines.values := by decide +kernel
  have new : s ∉ SymbolTable.empty.knownSubroutines.values := List.not_mem_nil
  obtain ⟨line, found, gap, there, header, start, selected, covers⟩ := selection_covers_header_iff recorded new
  have first : found.line = 0 := (congrArg Position.line start).symm
  rw [first] at there
  obtain rfl : "Sub  Foo" = line := Option.some.inj there
  have opener : openerOn? .subroutine 0 "Sub  Foo" = some b := by decide +kernel
  obtain rfl : found = b := by
    have same := header.opener
    rw [first, opener] at same
    exact (Option.some.inj same).symm
  refine ⟨recorded, new, gap, header, fun covered => ?_⟩
  have single := covers.mp covered
  have short : 7 = 8 - (gap.length - 1) := congrArg (·.stop.character) selected
  omega

end BasicWorkbench
