import BasicWorkbench.Analyzers
import BasicWorkbench.Proofs.LineColumns
import BasicWorkbench.Proofs.SubroutineOutlines

namespace BasicWorkbench

/-- The place is on a line of the document, at a column which that line has and which is the same where editors
count units of two bytes. -/
def Position.IsReal (lines : List Text) (p : Position) : Prop :=
  ∃ line, lines[p.line]? = some line ∧ RealColumn line p.character ∧
    PositionUnit.utf16.length (line.take p.character) = p.character

def Position.UpTo (p q : Position) : Prop := p.line < q.line ∨ p.line = q.line ∧ p.character ≤ q.character

/-- A stretch between two real places, the first of them in front. -/
structure Span.IsReal (lines : List Text) (s : Span) : Prop where
  start : s.start.IsReal lines
  stop : s.stop.IsReal lines
  ordered : s.start.UpTo s.stop

structure Span.Within (inner outer : Span) : Prop where
  start : outer.start.UpTo inner.start
  stop : inner.stop.UpTo outer.stop

/-- The whole of a symbol and the part to select are real, and one holds the other. -/
structure Symbol.IsPlaced (lines : List Text) (s : Symbol) : Prop where
  span : s.span.IsReal lines
  selection : s.selection.IsReal lines
  inside : s.selection.Within s.span

section Places

variable {lines : List Text} {number : Nat} {line : Text}

theorem Position.isReal_of_column (there : lines[number]? = some line) {column : Nat}
    (real : RealColumn line column) : Position.IsReal lines ⟨number, column⟩ :=
  ⟨line, there, real, real.utf16_length⟩

theorem Span.onLine_isReal (there : lines[number]? = some line) {first last : Nat} (le : first ≤ last)
    (real : RealColumn line last) : (Span.onLine number first last).IsReal lines where
  start := Position.isReal_of_column there (real.mono le)
  stop := Position.isReal_of_column there real
  ordered := .inr ⟨rfl, le⟩

theorem BlockOpener.diagnostic_isReal {b : BlockOpener} (unclosed : b ∈ unclosedBlocks lines) :
    b.diagnostic.span.IsReal lines := by
  obtain ⟨line, there, opened⟩ := mem_unclosedBlocks unclosed
  exact Span.onLine_isReal there (Nat.le_add_right _ _) (realColumn_of_opener opened)

theorem Assignment.symbol_isPlaced (there : lines[number]? = some line) {a : Assignment}
    (assigned : assignmentOn? line = some a) : (a.symbol number).IsPlaced lines := by
  have real : (Span.onLine number a.column (a.column + a.name.length)).IsReal lines :=
    Span.onLine_isReal there (Nat.le_add_right _ _) (realColumn_of_assignment assigned)
  exact ⟨real, real, ⟨.inr ⟨rfl, Nat.le_refl _⟩, .inr ⟨rfl, Nat.le_refl _⟩⟩⟩

structure SubroutineStart.IsOn (lines : List Text) (s : SubroutineStart) (first : Nat) : Prop where
  real : ∃ line, lines[first]? = some line ∧ RealColumn line (s.column + 4 + s.name.length)

/-- A subroutine ends on a later line than the one with its name, so that the part to select is inside. -/
theorem SubroutineStart.symbol_isPlaced (there : lines[number]? = some line) {s : SubroutineStart} {first : Nat}
    (started : s.IsOn lines first) (earlier : first < number) (ends : endsSubroutine line = true) :
    (s.symbol first number line).IsPlaced lines := by
  obtain ⟨opening, begun, real⟩ := started.real
  have selected : s.column ≤ s.column + 4 + s.name.length := by omega
  refine ⟨⟨?_, ?_, .inl earlier⟩, Span.onLine_isReal begun selected real, ?_⟩
  · exact Position.isReal_of_column begun (real.mono selected)
  · exact Position.isReal_of_column there (realColumn_of_end ends)
  · exact ⟨.inr ⟨rfl, Nat.le_refl _⟩, .inl earlier⟩

end Places

namespace SymbolTable

def IsPlaced (lines : List Text) (table : SymbolTable) : Prop := ∀ s ∈ table.symbols, s.IsPlaced lines

variable {lines : List Text} {table : SymbolTable} {s : Symbol}

theorem IsPlaced.addSubroutine (placed : table.IsPlaced lines) (here : s.IsPlaced lines) :
    (table.addSubroutine s).IsPlaced lines := by
  intro t ht
  rcases List.mem_append.mp ht with subroutine | assigned
  · rcases OrderedMap.mem_values_insert subroutine with rfl | known
    · exact here
    · exact placed t (List.mem_append_left _ known)
  · exact placed t (List.mem_append_right _ assigned)

/-- A variable that is known keeps its place. -/
theorem IsPlaced.addVariable (placed : table.IsPlaced lines) (here : s.IsPlaced lines) :
    (table.addVariable s).IsPlaced lines := by
  intro t ht
  rcases List.mem_append.mp ht with subroutine | assigned
  · exact placed t (List.mem_append_left _ subroutine)
  · rcases OrderedMap.mem_values_insert assigned with rfl | known
    · split
      next known found =>
        obtain ⟨span, selection, inside⟩ :=
          placed known (List.mem_append_right _ (OrderedMap.mem_values_of_find? found))
        exact ⟨span, selection, inside⟩
      next => exact here
    · exact placed t (List.mem_append_right _ known)

theorem IsPlaced.assign (placed : table.IsPlaced lines) {number : Nat} {line : Text}
    (there : lines[number]? = some line) : (table.assign number line).IsPlaced lines := by
  unfold SymbolTable.assign
  split
  next a assigned => exact placed.addVariable (a.symbol_isPlaced there assigned)
  next => exact placed

/-- What is collected from the lines behind a number is placed, if all was so before. -/
theorem IsPlaced.collectFrom {rest : List Text} {started : Option (SubroutineStart × Nat)} {number : Nat}
    (placed : table.IsPlaced lines) (part : lines.drop number = rest)
    (begun : ∀ w ∈ started, w.1.IsOn lines w.2 ∧ w.2 < number) :
    (collectFrom table started number rest).IsPlaced lines := by
  induction rest generalizing table started number with
  | nil => exact placed
  | cons line rest ih =>
    have there : lines[number]? = some line := by
      rw [← List.head?_drop, part]
      rfl
    have later : lines.drop (number + 1) = rest := by
      rw [← List.tail_drop, part]
      rfl
    have assigned := placed.assign there
    have waiting : ∀ w ∈ started, w.1.IsOn lines w.2 ∧ w.2 < number + 1 := by
      intro w hw
      exact ⟨(begun w hw).1, Nat.lt_succ_of_lt (begun w hw).2⟩
    rw [collectFrom_cons]
    split
    next s _ starts =>
      refine ih assigned later fun w hw => ?_
      obtain rfl := Option.some.inj hw
      exact ⟨⟨line, there, realColumn_of_start starts⟩, Nat.lt_succ_self number⟩
    next s first _ =>
      obtain ⟨opened, earlier⟩ := begun (s, first) rfl
      split
      next ends =>
        exact ih (assigned.addSubroutine (s.symbol_isPlaced there opened earlier ends)) later (by simp)
      next => exact ih assigned later waiting
    next => exact ih assigned later (by simp)

end SymbolTable

/-- All that an analysis points at is in the text: every error of the block check, the shown ones among them,
and of every symbol the whole and the part to select, which lies inside the whole. -/
theorem analysis_positions_real (settings : Settings) (source : Text) :
    let lines := editorLines source
    let found := analysis settings source
    (∀ d ∈ blockDiagnostics lines, d.span.IsReal lines) ∧
      (∀ d ∈ found.diagnostics, d ∈ blockDiagnostics lines) ∧
      ∀ s ∈ found.symbols.symbols, s.IsPlaced lines := by
  intro lines found
  refine ⟨?_, fun d hd => List.mem_of_mem_take hd, ?_⟩
  · intro d hd
    obtain ⟨b, hb, rfl⟩ := List.mem_map.mp hd
    exact b.diagnostic_isReal hb
  · have empty : SymbolTable.empty.IsPlaced lines := by
      intro s hs
      simp [SymbolTable.empty, SymbolTable.symbols, OrderedMap.values] at hs
    exact empty.collectFrom rfl (by simp)

end BasicWorkbench
