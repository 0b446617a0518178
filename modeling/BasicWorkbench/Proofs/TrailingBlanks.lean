import BasicWorkbench.Proofs.SubroutinePairs

namespace BasicWorkbench

/-- A line from whose end blanks may have been removed. -/
def TrimmedTo (line cut : Text) : Prop := ∃ blanks, line = cut ++ blanks ∧ ∀ c ∈ blanks, isBlank c = true

section Blanks

variable {blanks : Text} (blank : ∀ c ∈ blanks, isBlank c = true)

include blank

theorem trimStart_append_blanks (s : Text) :
    trimStart (s ++ blanks) = if trimStart s = [] then [] else trimStart s ++ blanks := by
  have gone : trimStart blanks = [] := List.dropWhile_eq_nil_iff.mpr blank
  simp [trimStart_append, gone]

theorem trimEnd_append_blanks (s : Text) : trimEnd (s ++ blanks) = trimEnd s := by
  have blank' : ∀ c ∈ blanks.reverse, isBlank c = true := fun c hc => blank c (List.mem_reverse.mp hc)
  have front := trimStart_of_blanks blank' s.reverse
  unfold trimStart at front
  rw [trimEnd, trimEnd, List.reverse_append, front]

theorem trim_append_blanks (s : Text) : trim (s ++ blanks) = trim s := by
  rw [trim, trim, trimStart_append_blanks blank]
  split
  next empty => rw [empty]
  next => exact trimEnd_append_blanks blank _

theorem trim_blanks_append (s : Text) : trim (blanks ++ s) = trim s := by
  rw [trim, trim, trimStart_of_blanks blank]

theorem ofLiteral_append_blanks (s : Text) : ValueType.ofLiteral (s ++ blanks) = .ofLiteral s := by
  rw [ValueType.ofLiteral, ValueType.ofLiteral, trim_append_blanks blank]

theorem ofLiteral_blanks_append (s : Text) : ValueType.ofLiteral (blanks ++ s) = .ofLiteral s := by
  rw [ValueType.ofLiteral, ValueType.ofLiteral, trim_blanks_append blank]

theorem takeWhile_append_blanks {p : Char → Bool} (solid : ∀ c, isBlank c = true → p c = false) (s : Text) :
    (s ++ blanks).takeWhile p = s.takeWhile p := by
  have none : blanks.takeWhile p = [] := by
    cases blanks with
    | nil => rfl
    | cons b blanks => simp [solid b (blank b List.mem_cons_self)]
  rw [List.takeWhile_append, none, List.append_nil]
  split
  next whole => exact (List.takeWhile_prefix p).eq_of_length whole |>.symm
  next => rfl

theorem all_append_blanks (s : Text) : (s ++ blanks).all isBlank = s.all isBlank := by
  rw [List.all_append, List.all_eq_true.mpr blank, Bool.and_true]

end Blanks

/-- A line in front of blanks is cut where the whole is, at a character that is none of them. -/
theorem exists_cut_before_blanks {cut blanks front rest : Text} {c : Char} (blank : ∀ d ∈ blanks, isBlank d = true)
    (solid : isBlank c = false) (same : cut ++ blanks = front ++ c :: rest) :
    ∃ behind, cut = front ++ c :: behind ∧ rest = behind ++ blanks := by
  rcases List.append_eq_append_iff.mp same with ⟨more, _, late⟩ | ⟨more, parts, early⟩
  · have within : c ∈ blanks := late ▸ List.mem_append_right more List.mem_cons_self
    exact absurd (blank c within) (by simp [solid])
  · cases more with
    | nil =>
      have within : c ∈ blanks := by
        rw [List.nil_append] at early
        exact early ▸ List.mem_cons_self
      exact absurd (blank c within) (by simp [solid])
    | cons d behind =>
      obtain ⟨rfl, rest⟩ := List.cons.inj early
      exact ⟨behind, parts, rest⟩

theorem FirstWord.append {word line indent spelled rest : Text} (first : FirstWord word line indent spelled rest)
    (more : Text) : FirstWord word (line ++ more) indent spelled (rest ++ more) := by
  refine ⟨?_, first.blank, first.spelling⟩
  rw [first.parts, List.append_assoc, List.append_assoc]

theorem subroutineStartOn?_of_unnamed {line : Text} (unnamed : ∀ c rest, namedPart? line ≠ some (c :: rest)) :
    subroutineStartOn? line = none := by
  refine (subroutineStartOn?_of_no_name 0 ?_).2
  cases part : namedPart? line with
  | none => exact .inl rfl
  | some named =>
    cases named with
    | nil => exact .inr rfl
    | cons c rest => exact absurd part (unnamed c rest)

theorem namedPart?_append {line rest : Text} {c : Char} (part : namedPart? line = some (c :: rest)) (more : Text) :
    namedPart? (line ++ more) = some (c :: (rest ++ more)) := by
  obtain ⟨indent, spelled, gap, first, apart, blank, start⟩ := namedPart?_eq_some_iff.mp part
  have longer := first.append more
  rw [List.append_assoc] at longer
  have solid : isBlank c = false := trimStart_eq_self_iff.mp start c rfl
  exact namedPart?_eq_some_iff.mpr ⟨indent, spelled, gap, longer, apart, blank, trimStart_of_not_blank solid _⟩

theorem exists_namedPart_before_blanks {cut blanks rest : Text} {c : Char} (blank : ∀ d ∈ blanks, isBlank d = true)
    (part : namedPart? (cut ++ blanks) = some (c :: rest)) :
    ∃ behind, namedPart? cut = some (c :: behind) := by
  obtain ⟨indent, spelled, gap, first, apart, blank', start⟩ := namedPart?_eq_some_iff.mp part
  have solid : isBlank c = false := trimStart_eq_self_iff.mp start c rfl
  have parts := first.parts
  rw [← List.append_assoc, ← List.append_assoc] at parts
  obtain ⟨behind, parts', rfl⟩ := exists_cut_before_blanks blank solid parts
  rw [List.append_assoc, List.append_assoc] at parts'
  refine ⟨behind, namedPart?_eq_some_iff.mpr ⟨indent, spelled, gap, ?_, apart, blank', ?_⟩⟩
  · exact ⟨parts', first.blank, first.spelling⟩
  · exact trimStart_of_not_blank solid behind

theorem nameRun_append_blanks {blanks : Text} (blank : ∀ c ∈ blanks, isBlank c = true) (s : Text) :
    nameRun (s ++ blanks) = nameRun s := by
  refine takeWhile_append_blanks blank (fun c blank => ?_) s
  rw [← isBlank_foldChar] at blank
  exact Bool.eq_false_iff.mpr fun name => absurd blank (by simp [not_blank_of_isNameChar name])

namespace TrimmedTo

variable {line cut : Text} (trimmed : TrimmedTo line cut)

include trimmed

theorem column_eq (solid : trimStart cut ≠ []) :
    line.length - (trimStart line).length = cut.length - (trimStart cut).length := by
  obtain ⟨blanks, rfl, blank⟩ := trimmed
  rw [trimStart_append_blanks blank, if_neg solid, List.length_append, List.length_append]
  omega

theorem subroutineStartOn?_eq : subroutineStartOn? line = subroutineStartOn? cut := by
  have column := trimmed.column_eq
  obtain ⟨blanks, rfl, blank⟩ := trimmed
  by_cases named : ∃ c rest, namedPart? cut = some (c :: rest)
  · obtain ⟨c, rest, part⟩ := named
    have part' := namedPart?_append part blanks
    have solid : trimStart cut ≠ [] := by
      intro empty
      have within := (suffix_of_namedPart part).1
      rw [empty, List.suffix_nil] at within
      contradiction
    have run : nameRun (c :: (rest ++ blanks)) = nameRun (c :: rest) := nameRun_append_blanks blank (c :: rest)
    have within : nameRun (c :: rest) <+: c :: rest := List.takeWhile_prefix _
    have behind : ((c :: (rest ++ blanks)).drop (nameRun (c :: rest)).length).all isBlank =
        ((c :: rest).drop (nameRun (c :: rest)).length).all isBlank := by
      rw [← List.cons_append, List.drop_append_of_le_length within.length_le, all_append_blanks blank]
    have start : (namedOpener 0 (cut ++ blanks) (c :: (rest ++ blanks))).start =
        (namedOpener 0 cut (c :: rest)).start := by
      simp only [BlockOpener.start, namedOpener, column solid, run]
    rw [subroutineStartOn?_of_namedPart part, subroutineStartOn?_of_namedPart part', run, behind, start]
  · have unnamed : ∀ c rest, namedPart? (cut ++ blanks) ≠ some (c :: rest) := by
      intro c rest part
      obtain ⟨behind, part'⟩ := exists_namedPart_before_blanks blank part
      exact named ⟨c, behind, part'⟩
    rw [subroutineStartOn?_of_unnamed unnamed,
      subroutineStartOn?_of_unnamed fun c rest part => named ⟨c, rest, part⟩]

theorem endsSubroutine_eq : endsSubroutine line = endsSubroutine cut := by
  obtain ⟨blanks, rfl, blank⟩ := trimmed
  cases blanks with
  | nil => rw [List.append_nil]
  | cons b blanks =>
    unfold endsSubroutine
    rw [trimStart_append_blanks blank]
    by_cases empty : trimStart cut = []
    · rw [if_pos empty, empty]
    · rw [if_neg empty, dropWord?_append_blank (by decide) (blank b List.mem_cons_self)]
      cases dropWord? "endsub" (trimStart cut) with
      | none => rfl
      | some rest => exact all_append_blanks blank rest

end TrimmedTo

/-- The start of an assignment on a line: blanks, a name, blanks or none, the equals sign, and what comes behind. -/
structure AssignmentStart (line indent name gap behind : Text) : Prop where
  parts : line = indent ++ (name ++ (gap ++ '=' :: behind))
  indented : ∀ c ∈ indent, isBlank c = true
  apart : ∀ c ∈ gap, isBlank c = true
  named : ∃ c rest, name = c :: rest ∧ isAsciiLetter c = true ∧ ∀ d ∈ rest, isNameChar d = true

theorem wholeLine?_of_unbroken {s : Text} (unbroken : ∀ c ∈ s, inLine c = true) (given : s ≠ []) :
    wholeLine? s = some s := by
  have run : s.takeWhile inLine = s := List.takeWhile_eq_self_iff.mpr unbroken
  have left : s.dropWhile inLine = [] := List.dropWhile_eq_nil_iff.mpr unbroken
  obtain ⟨c, rest, rfl⟩ := List.exists_cons_of_ne_nil given
  rw [wholeLine?, run, left]
  rfl

/-- Behind an equals sign a value is read if anything stands there; blanks in front of it go. -/
theorem exists_assignedValue {s : Text} (unbroken : ∀ c ∈ s, inLine c = true) (given : s ≠ []) :
    ∃ blanks value, s = blanks ++ value ∧ (∀ c ∈ blanks, isBlank c = true) ∧ assignedValue? s = some value := by
  have found : (assignedValue? s).isSome = true := by
    rw [assignedValue?, List.findSome?_isSome_iff]
    exact ⟨s, by simp, by rw [wholeLine?_of_unbroken unbroken given]; rfl⟩
  obtain ⟨value, read⟩ := Option.isSome_iff_exists.mp found
  obtain ⟨rest, start, whole⟩ := List.exists_of_findSome?_eq_some read
  have cut : ∃ blanks, s = blanks ++ rest ∧ ∀ c ∈ blanks, isBlank c = true := by
    rcases List.mem_append.mp start with later | same
    · obtain ⟨blanks, _, parts, blank⟩ := mem_restsAfter.mp (List.mem_reverse.mp later)
      exact ⟨blanks, parts, blank⟩
    · obtain rfl := List.mem_singleton.mp same
      exact ⟨[], rfl, by simp⟩
  obtain ⟨blanks, rfl, blank⟩ := cut
  have given' : rest ≠ [] := by
    rintro rfl
    cases whole
  rw [wholeLine?_of_unbroken (fun c hc => unbroken c (List.mem_append_right blanks hc)) given'] at whole
  obtain rfl := Option.some.inj whole
  exact ⟨blanks, rest, rfl, blank, read⟩

namespace AssignmentStart

variable {line indent name gap behind : Text} (start : AssignmentStart line indent name gap behind)

include start

theorem append (more : Text) : AssignmentStart (line ++ more) indent name gap (behind ++ more) := by
  refine ⟨?_, start.indented, start.apart, start.named⟩
  rw [start.parts]
  simp

theorem assignmentOn?_eq : assignmentOn? line = (assignedValue? behind).map (⟨indent.length, name, ·⟩) := by
  obtain ⟨rfl, indented, apart, c, rest, rfl, letter, named⟩ := start
  have solid : isBlank c = false := not_blank_of_isNameChar (isNameChar_of_letter letter)
  have body : trimStart (indent ++ (c :: rest ++ (gap ++ '=' :: behind))) = c :: (rest ++ (gap ++ '=' :: behind)) := by
    rw [trimStart_of_blanks indented]
    exact trimStart_of_not_blank solid _
  have stops : (gap ++ '=' :: behind).takeWhile isNameChar = [] := by
    cases gap with
    | nil => rfl
    | cons b gap =>
      have other : isNameChar b = false := Bool.eq_false_iff.mpr fun name =>
        absurd (apart b List.mem_cons_self) (by simp [not_blank_of_isNameChar name])
      simp [other]
  obtain ⟨run, left⟩ := span_append named stops
  have sign : trimStart (gap ++ '=' :: behind) = '=' :: behind := by
    rw [trimStart_of_blanks apart]
    exact trimStart_of_not_blank rfl _
  have column : (indent ++ (c :: rest ++ (gap ++ '=' :: behind))).length -
      (c :: (rest ++ (gap ++ '=' :: behind))).length = indent.length := by
    rw [List.length_append, List.cons_append]
    omega
  simp only [assignmentOn?, body, letter, if_true, run, left, sign, column]

theorem assignmentOn?_eq_none (empty : behind = []) : assignmentOn? line = none := by
  rw [start.assignmentOn?_eq, empty]
  rfl

/-- With a value, even of blanks alone, there is an assignment, and its type is that of all that stands behind the
equals sign. -/
theorem exists_assignment (unbroken : ∀ c ∈ line, inLine c = true) (given : behind ≠ []) :
    ∃ a, assignmentOn? line = some a ∧ a.column = indent.length ∧ a.name = name ∧
      ValueType.ofLiteral a.value = .ofLiteral behind := by
  have within : behind <:+ line := by
    rw [start.parts]
    exact ⟨indent ++ (name ++ (gap ++ ['='])), by simp⟩
  obtain ⟨blanks, value, rfl, blank, read⟩ := exists_assignedValue (fun c hc => unbroken c (within.subset hc)) given
  refine ⟨⟨indent.length, name, value⟩, ?_, rfl, rfl, (ofLiteral_blanks_append blank value).symm⟩
  rw [start.assignmentOn?_eq, read, Option.map_some]

end AssignmentStart

theorem exists_assignmentStart {line : Text} {a : Assignment} (assigned : assignmentOn? line = some a) :
    ∃ indent gap behind, AssignmentStart line indent a.name gap behind := by
  obtain ⟨indent, gap, behind, parts, _, blank, named, _, c, rest, name, letter⟩ := assignmentOn?_parts assigned
  obtain ⟨indented, apart⟩ := List.forall_mem_append.mp blank
  refine ⟨indent, gap, behind, parts, indented, apart, c, rest, name, letter, fun d hd => ?_⟩
  exact named d (name ▸ List.mem_cons_of_mem c hd)

/-- A line that assigns nothing yet to the name: nothing stands behind the equals sign. -/
def HalfTyped (line name : Text) : Prop := ∃ indent gap, AssignmentStart line indent name gap []

theorem HalfTyped.assignmentOn?_eq_none {line name : Text} (half : HalfTyped line name) :
    assignmentOn? line = none := by
  obtain ⟨indent, gap, start⟩ := half
  exact start.assignmentOn?_eq_none rfl

section Assignments

variable {line cut : Text} (trimmed : TrimmedTo line cut) (unbroken : ∀ c ∈ line, inLine c = true)

include trimmed unbroken

/-- What a trimmed line assigns, the line did. -/
theorem TrimmedTo.exists_symbol {a : Assignment} (assigned : assignmentOn? cut = some a) (number : Nat) :
    ∃ b, assignmentOn? line = some b ∧ b.symbol number = a.symbol number := by
  obtain ⟨blanks, rfl, blank⟩ := trimmed
  obtain ⟨indent, gap, behind, start⟩ := exists_assignmentStart assigned
  have given : behind ≠ [] := by
    intro empty
    rw [start.assignmentOn?_eq_none empty] at assigned
    contradiction
  have whole : ∀ c ∈ cut, inLine c = true := fun c hc => unbroken c (List.mem_append_left blanks hc)
  obtain ⟨a', same, column, _, type⟩ := start.exists_assignment whole given
  obtain rfl : a' = a := Option.some.inj (same.symm.trans assigned)
  obtain ⟨b, read, column', name', type'⟩ :=
    (start.append blanks).exists_assignment unbroken (List.append_ne_nil_of_left_ne_nil given blanks)
  rw [ofLiteral_append_blanks blank, ← type] at type'
  refine ⟨b, read, ?_⟩
  rw [Assignment.symbol, Assignment.symbol, column', ← column, name', type']

theorem TrimmedTo.halfTyped {b : Assignment} (assigned : assignmentOn? line = some b)
    (lost : assignmentOn? cut = none) : HalfTyped cut b.name := by
  obtain ⟨blanks, rfl, blank⟩ := trimmed
  obtain ⟨indent, gap, behind, start⟩ := exists_assignmentStart assigned
  have parts := start.parts
  rw [← List.append_assoc, ← List.append_assoc] at parts
  obtain ⟨rest, parts', rfl⟩ := exists_cut_before_blanks blank rfl parts
  rw [List.append_assoc, List.append_assoc] at parts'
  have start' : AssignmentStart cut indent b.name gap rest := ⟨parts', start.indented, start.apart, start.named⟩
  by_cases empty : rest = []
  · exact ⟨indent, gap, empty ▸ start'⟩
  · have whole : ∀ c ∈ cut, inLine c = true := fun c hc => unbroken c (List.mem_append_left blanks hc)
    obtain ⟨a, read, _⟩ := start'.exists_assignment whole empty
    rw [lost] at read
    contradiction

/-- Blanks alone behind the equals sign are assigned, as a value of no literal form. -/
theorem TrimmedTo.assigns_blanks {name : Text} (half : HalfTyped cut name) (changed : line ≠ cut) :
    ∃ b, assignmentOn? line = some b ∧ b.name = name ∧ ValueType.ofLiteral b.value = .variable := by
  obtain ⟨blanks, rfl, blank⟩ := trimmed
  obtain ⟨indent, gap, start⟩ := half
  have given : blanks ≠ [] := by
    rintro rfl
    exact changed (List.append_nil cut)
  obtain ⟨b, read, _, named, type⟩ := (start.append blanks).exists_assignment unbroken given
  exact ⟨b, read, named, type.trans (ofLiteral_append_blanks blank [])⟩

end Assignments

end BasicWorkbench
