import BasicWorkbench.Proofs.SubroutinePairs
import BasicWorkbench.Proofs.SymbolHistories

namespace BasicWorkbench

def assignmentsOn (lines : List Text) : List (Nat × Assignment) :=
  (List.range lines.length).filterMap fun number => (lines[number]?.bind assignmentOn?).map (number, ·)

theorem assignmentsOn_concat (lines : List Text) (line : Text) :
    assignmentsOn (lines ++ [line]) =
      assignmentsOn lines ++ (assignmentOn? line).toList.map (lines.length, ·) := by
  unfold assignmentsOn
  rw [List.length_append, List.length_singleton, List.range_succ, List.filterMap_append]
  congr 1
  · refine List.filterMap_congr fun number before => ?_
    rw [List.getElem?_append_left (List.mem_range.mp before)]
  · rw [List.filterMap_cons, List.getElem?_concat_length, Option.bind_some]
    cases assignmentOn? line with
    | none => rfl
    | some a => rfl

theorem mem_assignmentsOn {lines : List Text} {number : Nat} {a : Assignment} :
    (number, a) ∈ assignmentsOn lines ↔ ∃ line, lines[number]? = some line ∧ assignmentOn? line = some a := by
  unfold assignmentsOn
  rw [List.mem_filterMap]
  constructor
  · rintro ⟨n, _, found⟩
    obtain ⟨b, read, same⟩ := Option.map_eq_some_iff.mp found
    obtain ⟨rfl, rfl⟩ := Prod.mk.inj same
    exact Option.bind_eq_some_iff.mp read
  · rintro ⟨line, there, read⟩
    obtain ⟨within, _⟩ := List.getElem?_eq_some_iff.mp there
    refine ⟨number, List.mem_range.mpr within, ?_⟩
    rw [there, Option.bind_some, read]
    rfl

theorem assignmentsOn_ordered (lines : List Text) : (assignmentsOn lines).Pairwise fun a b => a.1 < b.1 := by
  unfold assignmentsOn
  rw [List.pairwise_filterMap]
  refine List.pairwise_lt_range.imp fun before a ha b hb => ?_
  obtain ⟨_, _, rfl⟩ := Option.map_eq_some_iff.mp ha
  obtain ⟨_, _, rfl⟩ := Option.map_eq_some_iff.mp hb
  exact before

theorem assignment_cut {lines : List Text} {a : Nat × Assignment} (assigned : a ∈ assignmentsOn lines) :
    ∃ line, lines[a.1]? = some line ∧ assignmentOn? line = some a.2 ∧
      (line.drop a.2.column).take a.2.name.length = a.2.name := by
  obtain ⟨line, there, read⟩ := mem_assignmentsOn.mp assigned
  obtain ⟨indent, gap, after, parts, column, _⟩ := assignmentOn?_parts read
  refine ⟨line, there, read, ?_⟩
  rw [parts, column, List.drop_left, List.take_left]

def endAdds (waiting : Option (SubroutineStart × Nat)) (number : Nat) (line : Text) : List Addition :=
  if endsSubroutine line then waiting.toList.map fun w => .declared (w.1.symbol w.2 number line) else []

theorem linesAdd_cons (waiting : Option (SubroutineStart × Nat)) (number : Nat) (line : Text) (lines : List Text) :
    linesAdd waiting number (line :: lines) =
      assignmentAdds number line ++ endAdds waiting number line ++
        linesAdd (waitingBehind waiting number line) (number + 1) lines := by
  rw [linesAdd.eq_def, List.append_assoc]
  dsimp only
  congr 1
  unfold waitingBehind endAdds
  cases ends : endsSubroutine line with
  | true =>
    rw [subroutineStartOn?_of_ends ends]
    cases waiting with
    | none => rfl
    | some w => rfl
  | false =>
    cases subroutineStartOn? line with
    | some start => rfl
    | none =>
      cases waiting with
      | none => rfl
      | some w => rfl

theorem linesAdd_concat (waiting : Option (SubroutineStart × Nat)) (number : Nat) (lines : List Text) (line : Text) :
    linesAdd waiting number (lines ++ [line]) =
      linesAdd waiting number lines ++
        (assignmentAdds (number + lines.length) line ++
          endAdds (waitingAfter waiting number lines) (number + lines.length) line) := by
  induction lines generalizing waiting number with
  | nil =>
    rw [List.nil_append, linesAdd_cons, linesAdd, List.append_nil]
    rfl
  | cons head lines ih =>
    have place : number + 1 + lines.length = number + (head :: lines).length := by
      rw [List.length_cons]
      omega
    rw [List.cons_append, linesAdd_cons, linesAdd_cons, ih, place, List.append_assoc _ (linesAdd ..), waitingAfter]

theorem variablesTold_append (history more : List Addition) :
    variablesTold (history ++ more) = variablesTold history ++ variablesTold more :=
  List.filterMap_append

theorem subroutinesTold_append (history more : List Addition) :
    subroutinesTold (history ++ more) = subroutinesTold history ++ subroutinesTold more :=
  List.filterMap_append

theorem variablesTold_linesAdd (lines : List Text) :
    variablesTold (linesAdd none 0 lines) = (assignmentsOn lines).map fun a => a.2.symbol a.1 := by
  induction lines using List.reverseRecOn with
  | nil => rfl
  | append_singleton lines line ih =>
    have assigned : variablesTold (assignmentAdds lines.length line) =
        ((assignmentOn? line).toList.map (lines.length, ·)).map fun a => a.2.symbol a.1 := by
      unfold assignmentAdds
      cases assignmentOn? line <;> rfl
    have ended : variablesTold (endAdds (waitingAfter none 0 lines) lines.length line) = [] := by
      unfold endAdds
      cases endsSubroutine line <;> cases waitingAfter none 0 lines <;> rfl
    rw [linesAdd_concat, Nat.zero_add, variablesTold_append, variablesTold_append, ih, assigned, ended,
      assignmentsOn_concat, List.map_append, List.append_nil]

theorem subroutinesTold_assignmentAdds (number : Nat) (line : Text) :
    subroutinesTold (assignmentAdds number line) = [] := by
  unfold assignmentAdds
  cases assignmentOn? line <;> rfl

theorem subroutinesTold_linesAdd (lines : List Text) :
    subroutinesTold (linesAdd none 0 lines) = subroutinesOn lines := by
  induction lines using List.reverseRecOn with
  | nil => rfl
  | append_singleton lines line ih =>
    have ended : subroutinesTold (endAdds (waitingAfter none 0 lines) lines.length line) =
        if endsSubroutine line then
          (waitingAfter none 0 lines).toList.map fun w => w.1.symbol w.2 lines.length line
        else [] := by
      unfold endAdds
      cases endsSubroutine line <;> cases waitingAfter none 0 lines <;> rfl
    rw [linesAdd_concat, Nat.zero_add, subroutinesTold_append, subroutinesTold_append, ih,
      subroutinesTold_assignmentAdds, ended, subroutinesOn_concat, List.nil_append]

/-- What is told of a variable by assignments: the first for the name and its place, the last for the type. -/
theorem variableTold_assignments (key : Text) (assigned : List (Nat × Assignment)) :
    variableTold key (assigned.map fun a => a.2.symbol a.1) = (do
      let first ← assigned.find? fun a => lower a.2.name = key
      let last ← assigned.reverse.find? fun a => lower a.2.name = key
      let span := Span.onLine first.1 first.2.column (first.2.column + first.2.name.length)
      some ⟨first.2.name, .variable, span, span, some (ValueType.ofLiteral last.2.value).word⟩) := by
  have byName : ((fun s : Symbol => decide (s.key = key)) ∘ fun a : Nat × Assignment => a.2.symbol a.1) =
      fun a => decide (lower a.2.name = key) := rfl
  rw [variableTold, firstTold, lastTold, List.find?_map, ← List.map_reverse, List.find?_map, byName]
  cases assigned.find? fun a => lower a.2.name = key with
  | none => rfl
  | some first =>
    cases assigned.reverse.find? fun a => lower a.2.name = key with
    | none => rfl
    | some last => rfl

/-- The symbols that are collected from lines. There is one variable for each name in lower case that is assigned,
in the order of the first assignments, as written there and with the stretch of the name, but with the type of the
value assigned last. There is one subroutine for each name in lower case among those that go from a start to an end
with neither between, in the order of the first of them and told of as the last. -/
theorem collect_exact (lines : List Text) :
    let table := SymbolTable.empty.collect lines
    let assigned := assignmentsOn lines
    let declared := subroutinesOn lines
    (table.knownVariables.keys = (assigned.map fun a => lower a.2.name).eraseDups ∧
      (∀ key, table.knownVariables.find? key = do
        let first ← assigned.find? fun a => lower a.2.name = key
        let last ← assigned.reverse.find? fun a => lower a.2.name = key
        let span := Span.onLine first.1 first.2.column (first.2.column + first.2.name.length)
        some ⟨first.2.name, .variable, span, span, some (ValueType.ofLiteral last.2.value).word⟩) ∧
      ∀ a ∈ assigned, ∃ line, lines[a.1]? = some line ∧ assignmentOn? line = some a.2 ∧
        (line.drop a.2.column).take a.2.name.length = a.2.name) ∧
    (table.knownSubroutines.keys = (declared.map fun s => lower s.name).eraseDups ∧
      (∀ key, table.knownSubroutines.find? key = declared.reverse.find? fun s => lower s.name = key) ∧
      List.Forall₂ (Declares lines) (subroutinePairs lines) declared ∧
      (subroutinePairs lines).Pairwise (fun earlier later => earlier.2 < later.1) ∧
      ∀ first last, (first, last) ∈ subroutinePairs lines ↔ Delimits lines first last) := by
  intro table assigned declared
  have records : table.Records (linesAdd none 0 lines) := by
    have collected := SymbolTable.Records.empty.addAll (linesAdd none 0 lines)
    rwa [← SymbolTable.collectFrom_eq_foldl] at collected
  obtain ⟨assignedKeys, found, declaredKeys, found'⟩ := records
  rw [variablesTold_linesAdd] at assignedKeys found
  rw [subroutinesTold_linesAdd] at declaredKeys found'
  refine ⟨⟨?_, ?_, fun a => assignment_cut⟩, declaredKeys, found', forall₂_declares lines,
    subroutinePairs_ordered lines, fun first last => mem_subroutinePairs⟩
  · rw [assignedKeys, keysInOrder, List.map_map]
    rfl
  · intro key
    rw [found, variableTold_assignments]

end BasicWorkbench
