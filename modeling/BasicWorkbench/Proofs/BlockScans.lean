import BasicWorkbench.Blocks

namespace BasicWorkbench

/-- An opener is of the kind looked for and on the line looked at, and only a subroutine has a name. -/
theorem openerOn?_eq_some {kind : BlockKind} {number : Nat} {line : Text} {b : BlockOpener}
    (h : openerOn? kind number line = some b) :
    b.kind = kind ∧ b.line = number ∧ (b.name.isSome ↔ kind = .subroutine) := by
  cases kind with
  | subroutine =>
    obtain ⟨named, _, h⟩ := Option.bind_eq_some_iff.mp h
    obtain ⟨name, _, h⟩ := Option.bind_eq_some_iff.mp h
    cases Option.some.inj h
    simp
  | conditional | whileLoop | forLoop =>
    obtain ⟨rest, _, rfl⟩ := Option.map_eq_some_iff.mp h
    simp

theorem mem_stepKind {number : Nat} {line : Text} {unclosed : List BlockOpener} {kind : BlockKind}
    {b : BlockOpener} (h : b ∈ stepKind number line unclosed kind) :
    b ∈ unclosed ∨ openerOn? kind number line = some b := by
  unfold stepKind at h
  split at h
  next => exact .inl (List.mem_of_mem_eraseP h)
  next =>
    split at h
    next opener found =>
      rcases List.mem_cons.mp h with rfl | earlier
      · exact .inr found
      · exact .inl earlier
    next => exact .inl h

theorem mem_foldl_stepKind {number : Nat} {line : Text} {b : BlockOpener} (kinds : List BlockKind)
    {unclosed : List BlockOpener} (h : b ∈ kinds.foldl (stepKind number line) unclosed) :
    b ∈ unclosed ∨ openerOn? b.kind number line = some b := by
  induction kinds generalizing unclosed with
  | nil => exact .inl h
  | cons kind kinds ih =>
    rcases ih h with earlier | opened
    · rcases mem_stepKind earlier with earlier | opened
      · exact .inl earlier
      · have same := (openerOn?_eq_some opened).1
        exact .inr (by rw [same, opened])
    · exact .inr opened

theorem mem_unclosedFrom {lines : List Text} {number : Nat} {unclosed : List BlockOpener} {b : BlockOpener}
    (h : b ∈ unclosedFrom number unclosed lines) :
    b ∈ unclosed ∨ ∃ k line, lines[k]? = some line ∧ openerOn? b.kind (number + k) line = some b := by
  induction lines generalizing number unclosed with
  | nil => exact .inl (List.mem_reverse.mp h)
  | cons line lines ih =>
    rcases ih h with here | ⟨k, later, found, opened⟩
    · rcases mem_foldl_stepKind BlockKind.all here with earlier | opened
      · exact .inl earlier
      · exact .inr ⟨0, line, rfl, opened⟩
    · refine .inr ⟨k + 1, later, found, ?_⟩
      rwa [show number + (k + 1) = number + 1 + k by omega]

theorem mem_unclosedBlocks {lines : List Text} {b : BlockOpener} (h : b ∈ unclosedBlocks lines) :
    ∃ line, lines[b.line]? = some line ∧ openerOn? b.kind b.line line = some b := by
  rcases mem_unclosedFrom h with none | ⟨k, line, found, opened⟩
  · simp at none
  · rw [Nat.zero_add] at opened
    have here := (openerOn?_eq_some opened).2.1
    subst here
    exact ⟨line, found, opened⟩

end BasicWorkbench
