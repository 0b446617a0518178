import BasicWorkbench.Proofs.CollectedSymbols
import BasicWorkbench.Proofs.ThinnedHistories
import BasicWorkbench.Proofs.TrailingBlanks

namespace BasicWorkbench

/-- The symbol but for the column at which its last line ends. -/
def Symbol.withoutEndColumn (s : Symbol) : Symbol :=
  { s with span := ⟨s.span.start, ⟨s.span.stop.line, 0⟩⟩ }

/-- On the line of a number, trimming leaves a name and an equals sign with nothing behind it, where blanks were. -/
def EmptiedAt (lines cuts : List Text) (number : Nat) (name : Text) : Prop :=
  ∃ line cut, lines[number]? = some line ∧ cuts[number]? = some cut ∧ line ≠ cut ∧ HalfTyped cut name

def assignedSymbols (lines : List Text) : List Symbol := (assignmentsOn lines).map fun a => a.2.symbol a.1

theorem assignedSymbols_ordered (lines : List Text) : (assignedSymbols lines).Pairwise fun s t => s.line < t.line :=
  List.pairwise_map.mpr (assignmentsOn_ordered lines)

theorem lastTold_assignedSymbols (key : Text) (lines : List Text) :
    lastTold key (assignedSymbols lines) =
      ((assignmentsOn lines).reverse.find? fun a => lower a.2.name = key).map fun a => a.2.symbol a.1 := by
  rw [lastTold, assignedSymbols, ← List.map_reverse, List.find?_map]
  rfl

theorem ValueType.word_injective {type other : ValueType} (same : type.word = other.word) : type = other := by
  cases type <;> cases other <;> first | rfl | exact absurd same (by decide)

/-- An assignment of no literal form is covered if its name is assigned on an earlier line, and last on a later one
or in no literal form either. -/
theorem coveredBy_assignedSymbols_iff {lines : List Text} {number : Nat} {a : Assignment}
    (type : ValueType.ofLiteral a.value = .variable) :
    (a.symbol number).CoveredBy (assignedSymbols lines) ↔
      (∃ e ∈ assignmentsOn lines, e.1 < number ∧ lower e.2.name = lower a.name) ∧
        ∀ e, (assignmentsOn lines).reverse.find? (fun e => lower e.2.name = lower a.name) = some e →
          number < e.1 ∨ ValueType.ofLiteral e.2.value = .variable := by
  have key : (a.symbol number).key = lower a.name := rfl
  have word : (a.symbol number).valueType = some ValueType.variable.word :=
    congrArg (fun t => some (ValueType.word t)) type
  constructor
  · rintro ⟨⟨e, member, before, same⟩, last⟩
    obtain ⟨e, assigned, rfl⟩ := List.mem_map.mp member
    refine ⟨⟨e, assigned, before, same⟩, fun e found => ?_⟩
    rw [key, word, lastTold_assignedSymbols] at last
    refine (last _ (congrArg (Option.map _) found)).imp_right fun same => ?_
    exact ValueType.word_injective (Option.some.inj same)
  · rintro ⟨⟨e, assigned, before, same⟩, last⟩
    refine ⟨⟨e.2.symbol e.1, List.mem_map_of_mem assigned, before, same⟩, fun s found => ?_⟩
    rw [key, lastTold_assignedSymbols] at found
    obtain ⟨e, found', rfl⟩ := Option.map_eq_some_iff.mp found
    rw [word]
    exact (last e found').imp_right fun type => congrArg (fun t => some (ValueType.word t)) type

def assignsAt (lines : List Text) (s : Symbol) : Bool := (lines[s.line]?.bind assignmentOn?).isSome

theorem assignsAt_symbol {lines : List Text} {number : Nat} {line : Text} (there : lines[number]? = some line)
    (a : Assignment) : assignsAt lines (a.symbol number) = (assignmentOn? line).isSome := by
  have place : lines[(a.symbol number).line]? = some line := there
  rw [assignsAt, place, Option.bind_some]

section Variables

variable {lines cuts : List Text} (trimmed : List.Forall₂ TrimmedTo lines cuts)

include trimmed

theorem exists_cut_of_line {number : Nat} {line : Text} (there : lines[number]? = some line) :
    ∃ cut, cuts[number]? = some cut ∧ TrimmedTo line cut := by
  obtain ⟨within, rfl⟩ := List.getElem?_eq_some_iff.mp there
  have within' : number < cuts.length := trimmed.length_eq ▸ within
  exact ⟨cuts[number], List.getElem?_eq_getElem within', trimmed.get within within'⟩

variable (unbroken : ∀ line ∈ lines, ∀ c ∈ line, inLine c = true)

include unbroken

/-- Trimmed lines assign what the lines do, but where they assign nothing any more. -/
theorem assignedSymbols_trimmed : assignedSymbols cuts = (assignedSymbols lines).filter (assignsAt cuts) := by
  unfold assignedSymbols assignmentsOn
  rw [List.map_filterMap, List.map_filterMap, List.filter_filterMap, trimmed.length_eq]
  refine List.filterMap_congr fun number before => ?_
  have within : number < lines.length := trimmed.length_eq ▸ List.mem_range.mp before
  have there : lines[number]? = some lines[number] := List.getElem?_eq_getElem within
  obtain ⟨cut, there', short⟩ := exists_cut_of_line trimmed there
  have whole := unbroken lines[number] (List.getElem_mem within)
  rw [there, there', Option.bind_some, Option.bind_some]
  cases assigned : assignmentOn? cut with
  | some a =>
    obtain ⟨b, read, same⟩ := short.exists_symbol whole assigned number
    have kept : assignsAt cuts (b.symbol number) = true := by
      rw [assignsAt_symbol there', assigned]
      rfl
    rw [read]
    refine Eq.trans ?_ (Option.filter_some_pos kept).symm
    exact congrArg some same.symm
  | none =>
    cases read : assignmentOn? lines[number] with
    | none => rfl
    | some b =>
      have lost : assignsAt cuts (b.symbol number) = false := by
        rw [assignsAt_symbol there', assigned]
        rfl
      exact (Option.filter_some_neg (by simp [lost])).symm

/-- Where trimmed lines assign nothing any more, blanks were assigned. -/
theorem emptiedAt_of_lost {s : Symbol} (member : s ∈ assignedSymbols lines) (lost : assignsAt cuts s = false) :
    EmptiedAt lines cuts s.line s.name ∧ s.valueType = some ValueType.variable.word := by
  obtain ⟨⟨number, a⟩, assigned, rfl⟩ := List.mem_map.mp member
  obtain ⟨line, there, read⟩ := mem_assignmentsOn.mp assigned
  obtain ⟨cut, there', short⟩ := exists_cut_of_line trimmed there
  have whole := unbroken line (List.mem_of_getElem? there)
  have none : assignmentOn? cut = none := by
    rwa [assignsAt_symbol there', Option.isSome_eq_false_iff, Option.isNone_iff_eq_none] at lost
  have changed : line ≠ cut := by
    rintro rfl
    rw [none] at read
    contradiction
  have half := short.halfTyped whole read none
  obtain ⟨b, read', _, type⟩ := short.assigns_blanks whole half changed
  obtain rfl := Option.some.inj (read'.symm.trans read)
  exact ⟨⟨line, cut, there, there', changed, half⟩, congrArg (fun t => some (ValueType.word t)) type⟩

theorem exists_lost_of_emptiedAt {number : Nat} {name : Text} (emptied : EmptiedAt lines cuts number name) :
    ∃ a, (number, a) ∈ assignmentsOn lines ∧ a.name = name ∧ ValueType.ofLiteral a.value = .variable ∧
      assignsAt cuts (a.symbol number) = false := by
  obtain ⟨line, cut, there, there', changed, half⟩ := emptied
  obtain ⟨cut', again, short⟩ := exists_cut_of_line trimmed there
  obtain rfl := Option.some.inj (there'.symm.trans again)
  obtain ⟨a, read, named, type⟩ :=
    short.assigns_blanks (unbroken line (List.mem_of_getElem? there)) half changed
  refine ⟨a, mem_assignmentsOn.mpr ⟨line, there, read⟩, named, type, ?_⟩
  rw [assignsAt_symbol there', half.assignmentOn?_eq_none]
  rfl

/-- The variables stay as they are exactly if each that is lost is covered by those that are kept. -/
theorem knownVariables_trimmed_iff :
    (SymbolTable.empty.collect lines).knownVariables = (SymbolTable.empty.collect cuts).knownVariables ↔
      ∀ s ∈ assignedSymbols lines, assignsAt cuts s = false → s.CoveredBy (assignedSymbols cuts) := by
  have typed : ∀ s ∈ assignedSymbols lines, ∀ t ∈ assignedSymbols lines, assignsAt cuts s = false →
      assignsAt cuts t = false → s.valueType = t.valueType := by
    intro s hs t ht lost lost'
    rw [(emptiedAt_of_lost trimmed unbroken hs lost).2, (emptiedAt_of_lost trimmed unbroken ht lost').2]
  have covered := thinned_iff (assignedSymbols_ordered lines) typed
  rw [← assignedSymbols_trimmed trimmed unbroken] at covered
  have records := SymbolTable.records_collect lines
  have records' := SymbolTable.records_collect cuts
  rw [← covered, eq_comm, records'.knownVariables_eq_iff records, variablesTold_linesAdd, variablesTold_linesAdd]
  rfl

/-- What is lost are the emptied assignments. -/
theorem lost_covered_iff :
    (∀ s ∈ assignedSymbols lines, assignsAt cuts s = false → s.CoveredBy (assignedSymbols cuts)) ↔
      ∀ number name, EmptiedAt lines cuts number name →
        (∃ e ∈ assignmentsOn cuts, e.1 < number ∧ lower e.2.name = lower name) ∧
          ∀ e, (assignmentsOn cuts).reverse.find? (fun e => lower e.2.name = lower name) = some e →
            number < e.1 ∨ ValueType.ofLiteral e.2.value = .variable := by
  constructor
  · intro each number name emptied
    obtain ⟨a, assigned, rfl, type, lost⟩ := exists_lost_of_emptiedAt trimmed unbroken emptied
    exact (coveredBy_assignedSymbols_iff type).mp (each _ (List.mem_map_of_mem assigned) lost)
  · intro each s member lost
    obtain ⟨emptied, word⟩ := emptiedAt_of_lost trimmed unbroken member lost
    obtain ⟨⟨number, a⟩, assigned, rfl⟩ := List.mem_map.mp member
    have type : ValueType.ofLiteral a.value = .variable := ValueType.word_injective (Option.some.inj word)
    exact (coveredBy_assignedSymbols_iff type).mpr (each number a.name emptied)

end Variables

/-- But for where their last lines end, trimmed lines tell of the same subroutines. -/
theorem subroutinesTold_trimmed {lines cuts : List Text} (trimmed : List.Forall₂ TrimmedTo lines cuts)
    (waiting : Option (SubroutineStart × Nat)) (number : Nat) :
    (subroutinesTold (linesAdd waiting number lines)).map Symbol.withoutEndColumn =
      (subroutinesTold (linesAdd waiting number cuts)).map Symbol.withoutEndColumn := by
  induction trimmed generalizing waiting number with
  | nil => rfl
  | @cons line cut lines cuts short _ ih =>
    have ended : (subroutinesTold (endAdds waiting number line)).map Symbol.withoutEndColumn =
        (subroutinesTold (endAdds waiting number cut)).map Symbol.withoutEndColumn := by
      unfold endAdds
      rw [short.endsSubroutine_eq]
      cases endsSubroutine cut <;> cases waiting <;> rfl
    have behind : waitingBehind waiting number line = waitingBehind waiting number cut := by
      rw [waitingBehind, waitingBehind, short.subroutineStartOn?_eq, short.endsSubroutine_eq]
    simp only [linesAdd_cons, subroutinesTold_append, List.map_append, subroutinesTold_assignmentAdds, ended, behind,
      ih]

/-- Removing blanks from the ends of lines changes no subroutine, but for the column at which its last line ends.
Where all that stands behind an equals sign goes, blanks were assigned, as a variable of no literal form. So the
variables stay as they are exactly if each name that lost such an assignment is assigned on an earlier line, and
last on a later one or in no literal form either. -/
theorem trimming_keeps_symbols_iff {lines cuts : List Text} (unbroken : ∀ line ∈ lines, ∀ c ∈ line, inLine c = true)
    (trimmed : List.Forall₂ TrimmedTo lines cuts) :
    let table := SymbolTable.empty.collect lines
    let table' := SymbolTable.empty.collect cuts
    table.knownSubroutines.mapValues Symbol.withoutEndColumn =
        table'.knownSubroutines.mapValues Symbol.withoutEndColumn ∧
      (∀ number name, EmptiedAt lines cuts number name →
        (∃ a, (number, a) ∈ assignmentsOn lines ∧ a.name = name ∧ ValueType.ofLiteral a.value = .variable) ∧
          ∀ a, (number, a) ∉ assignmentsOn cuts) ∧
      (table.knownVariables = table'.knownVariables ↔
        ∀ number name, EmptiedAt lines cuts number name →
          (∃ e ∈ assignmentsOn cuts, e.1 < number ∧ lower e.2.name = lower name) ∧
            ∀ e, (assignmentsOn cuts).reverse.find? (fun e => lower e.2.name = lower name) = some e →
              number < e.1 ∨ ValueType.ofLiteral e.2.value = .variable) := by
  intro table table'
  refine ⟨?_, fun number name emptied => ⟨?_, ?_⟩, ?_⟩
  · have keyed : ∀ s : Symbol, s.withoutEndColumn.key = s.key := fun _ => rfl
    have records : table.Records (linesAdd none 0 lines) := SymbolTable.records_collect lines
    have records' : table'.Records (linesAdd none 0 cuts) := SymbolTable.records_collect cuts
    rw [records.mapValues_knownSubroutines keyed, records'.mapValues_knownSubroutines keyed,
      subroutinesTold_trimmed trimmed none 0]
  · obtain ⟨a, assigned, named, type, _⟩ := exists_lost_of_emptiedAt trimmed unbroken emptied
    exact ⟨a, assigned, named, type⟩
  · obtain ⟨line, cut, _, there, _, half⟩ := emptied
    intro a assigned
    obtain ⟨cut', there', read⟩ := mem_assignmentsOn.mp assigned
    obtain rfl := Option.some.inj (there.symm.trans there')
    rw [half.assignmentOn?_eq_none] at read
    contradiction
  · exact (knownVariables_trimmed_iff trimmed unbroken).trans (lost_covered_iff trimmed unbroken)

/-- One blank behind an equals sign makes a variable, which goes with it. -/
theorem trimming_loses_half_typed :
    (∀ line ∈ ["x = ".toList], ∀ c ∈ line, inLine c = true) ∧
      List.Forall₂ TrimmedTo ["x = ".toList] ["x =".toList] ∧
      (SymbolTable.empty.collect ["x = ".toList]).knownVariables ≠
        (SymbolTable.empty.collect ["x =".toList]).knownVariables := by
  have unbroken : ∀ line ∈ ["x = ".toList], ∀ c ∈ line, inLine c = true := by
    intro line member
    obtain rfl := List.mem_singleton.mp member
    exact List.all_eq_true.mp (by decide)
  have trimmed : List.Forall₂ TrimmedTo ["x = ".toList] ["x =".toList] :=
    .cons ⟨[' '], rfl, List.all_eq_true.mp (by decide)⟩ .nil
  refine ⟨unbroken, trimmed, fun same => ?_⟩
  have half : HalfTyped "x =" "x" :=
    ⟨[], [' '], rfl, by simp, List.all_eq_true.mp (by decide), 'x', [], rfl, by decide, by simp⟩
  have emptied : EmptiedAt ["x = ".toList] ["x =".toList] 0 "x" :=
    ⟨"x = ", "x =", rfl, rfl, by decide, half⟩
  obtain ⟨⟨e, _, before, _⟩, _⟩ := (trimming_keeps_symbols_iff unbroken trimmed).2.2.mp same 0 "x" emptied
  exact absurd before (Nat.not_lt_zero _)

end BasicWorkbench
