import BasicWorkbench.PositionUnits
import BasicWorkbench.Proofs.SubroutineLines

namespace BasicWorkbench

/-- A character of the basic plane, for which one unit of two bytes is enough. -/
def IsBasic (c : Char) : Prop := c.toNat < 0x10000

theorem isBasic_of_blank {c : Char} (blank : isBlank c = true) : IsBasic c := by
  simp only [isBlank, Bool.or_eq_true, Bool.and_eq_true, decide_eq_true_eq] at blank
  unfold IsBasic
  omega

/-- The four letters beyond ASCII that count as ASCII letters are of the basic plane too. -/
theorem isBasic_of_foldChar {c : Char} (ascii : (foldChar c).toNat < 128) : IsBasic c := by
  unfold IsBasic
  by_cases beyond : 128 ≤ c.toNat
  · unfold foldChar at ascii
    split at ascii
    next dotted =>
      simp only [Bool.or_eq_true, decide_eq_true_eq] at dotted
      rcases dotted with rfl | rfl
      · decide
      · decide
    next =>
      split at ascii
      next long =>
        subst long
        decide
      next =>
        split at ascii
        next kelvin =>
          subst kelvin
          decide
        next =>
          rw [toLower_of_beyond_ascii beyond] at ascii
          omega
  · omega

theorem isBasic_of_spelling {v w : Text} (spelled : v.map foldChar = w) (ascii : w.all (·.toNat < 128) = true) :
    ∀ c ∈ v, IsBasic c := by
  intro c hc
  have letter : foldChar c ∈ w := spelled ▸ List.mem_map_of_mem hc
  exact isBasic_of_foldChar (by simpa using List.all_eq_true.mp ascii _ letter)

theorem ascii_of_isNameChar {c : Char} (name : isNameChar c = true) : c.toNat < 128 := by
  have ranges : isNameChar c =
      (decide (65 ≤ c.val ∧ c.val ≤ 90) || decide (97 ≤ c.val) && decide (c.val ≤ 122) ||
        decide (48 ≤ c.val) && decide (c.val ≤ 57) || c == '_') := rfl
  simp only [ranges, Bool.or_eq_true, Bool.and_eq_true, decide_eq_true_eq, beq_iff_eq,
    UInt32.le_iff_toNat_le] at name
  rcases name with ((⟨_, last⟩ | ⟨_, last⟩) | ⟨_, last⟩) | rfl
  · exact Nat.lt_of_le_of_lt last (by decide)
  · exact Nat.lt_of_le_of_lt last (by decide)
  · exact Nat.lt_of_le_of_lt last (by decide)
  · decide

theorem not_blank_of_isNameChar {c : Char} (name : isNameChar c = true) : isBlank c = false :=
  forall_ascii (p := fun c => isNameChar c = true → isBlank c = false) (by decide) (ascii_of_isNameChar name) name

/-- A column that a line has, with characters of the basic plane only in front of it. -/
structure RealColumn (line : Text) (column : Nat) : Prop where
  within : column ≤ line.length
  basic : ∀ c ∈ line.take column, IsBasic c

namespace RealColumn

theorem of_append {line front rest : Text} {column : Nat} (parts : line = front ++ rest)
    (basic : ∀ c ∈ front, IsBasic c) (within : column ≤ front.length) : RealColumn line column := by
  subst parts
  constructor
  · rw [List.length_append]
    omega
  · intro c hc
    rw [List.take_append_of_le_length within] at hc
    exact basic c (List.mem_of_mem_take hc)

theorem mono {line : Text} {column earlier : Nat} (real : RealColumn line column) (le : earlier ≤ column) :
    RealColumn line earlier := by
  refine ⟨Nat.le_trans le real.within, fun c hc => real.basic c ?_⟩
  exact (List.take_sublist_take_left le).subset hc

/-- In units of two bytes the column is the same. -/
theorem utf16_length {line : Text} {column : Nat} (real : RealColumn line column) :
    PositionUnit.utf16.length (line.take column) = column := by
  have one : ∀ s : Text, (∀ c ∈ s, IsBasic c) → PositionUnit.utf16.length s = s.length := by
    intro s basic
    induction s with
    | nil => rfl
    | cons c s ih =>
      have here : PositionUnit.utf16.width c = 1 := if_pos (basic c List.mem_cons_self)
      rw [PositionUnit.length, here, ih fun d hd => basic d (List.mem_cons_of_mem c hd), List.length_cons]
      omega
  rw [one _ real.basic, List.length_take_of_le real.within]

end RealColumn

theorem append_trimStart (s : Text) : ∃ blanks, s = blanks ++ trimStart s ∧ ∀ c ∈ blanks, IsBasic c := by
  obtain ⟨indent, parts, blank⟩ := exists_indent s
  exact ⟨indent, parts, fun c hc => isBasic_of_blank (blank c hc)⟩

theorem dropKeyword?_eq_some {word s rest : Text} (h : dropKeyword? word s = some rest) :
    dropWord? (asciiLower word) s = some rest := by
  unfold dropKeyword? at h
  split at h
  next c behind found =>
    split at h
    next => contradiction
    next => rw [found, h]
  next => exact h

theorem realColumn_of_keyword {line rest word : Text} (ascii : (asciiLower word).all (·.toNat < 128) = true)
    (h : dropKeyword? word (trimStart line) = some rest) :
    RealColumn line (line.length - (trimStart line).length + word.length) := by
  obtain ⟨indent, split', blanks⟩ := append_trimStart line
  obtain ⟨v, behind, spelled⟩ := dropWord?_eq_some_iff.mp (dropKeyword?_eq_some h)
  have length : v.length = word.length := by
    have same := congrArg List.length spelled
    simpa [asciiLower] using same
  have place : line.length - (trimStart line).length = indent.length := by
    have total := congrArg List.length split'
    rw [List.length_append] at total
    omega
  have front : line = (indent ++ v) ++ rest := by rw [List.append_assoc, ← behind, ← split']
  rw [place, ← length, ← List.length_append]
  refine .of_append front (fun c hc => ?_) (Nat.le_refl _)
  rcases List.mem_append.mp hc with hc | hc
  · exact blanks c hc
  · exact isBasic_of_spelling spelled ascii c hc

/-- The name of a subroutine ends at a real column, behind a keyword of three letters and a blank at least. -/
theorem realColumn_of_namedPart {line named : Text} (h : namedPart? line = some named) :
    RealColumn line (line.length - named.length + (nameRun named).length) ∧
      line.length - (trimStart line).length + 4 ≤ line.length - named.length := by
  obtain ⟨indent, split', blanks⟩ := append_trimStart line
  obtain ⟨rest, word, skipped⟩ := Option.bind_eq_some_iff.mp h
  obtain ⟨v, behind, spelled⟩ := dropWord?_eq_some_iff.mp word
  obtain ⟨gap, nonempty, blank, given, _⟩ := dropBlanks?_eq_some_iff.mp skipped
  have letters : v.length = 3 := by simpa using congrArg List.length spelled
  have wide : 0 < gap.length := List.length_pos_iff.mpr nonempty
  have body : trimStart line = v ++ gap ++ named := by rw [behind, given, List.append_assoc]
  have run : named = nameRun named ++ named.drop (nameRun named).length := by
    have start : nameRun named <+: named := List.takeWhile_prefix _
    exact (List.prefix_iff_eq_append.mp start).symm
  have front : line = (indent ++ (v ++ gap) ++ nameRun named) ++ named.drop (nameRun named).length := by
    rw [List.append_assoc, ← run, List.append_assoc, ← body, ← split']
  have total : line.length = indent.length + (v.length + gap.length + named.length) := by
    rw [split', List.length_append, body, List.length_append, List.length_append]
  have inner : (trimStart line).length = v.length + gap.length + named.length := by
    rw [body, List.length_append, List.length_append]
  refine ⟨.of_append front (fun c hc => ?_) ?_, by omega⟩
  · simp only [List.mem_append] at hc
    rcases hc with (hc | hc | hc) | hc
    · exact blanks c hc
    · exact isBasic_of_spelling spelled (by decide) c hc
    · exact isBasic_of_blank (blank c hc)
    · have name := List.mem_takeWhile_imp (p := fun c => isNameChar (foldChar c)) hc
      exact isBasic_of_foldChar (ascii_of_isNameChar name)
  · simp only [List.length_append]
    omega

theorem realColumn_of_opener {kind : BlockKind} {number : Nat} {line : Text} {b : BlockOpener}
    (h : openerOn? kind number line = some b) : RealColumn line b.endColumn := by
  cases kind with
  | subroutine =>
    cases part : namedPart? line with
    | none => simp [(subroutineStartOn?_of_no_name number (.inl part)).1] at h
    | some named =>
      cases named with
      | nil => simp [(subroutineStartOn?_of_no_name number (.inr part)).1] at h
      | cons c rest =>
        rw [openerOn?_of_namedPart part] at h
        split at h
        next =>
          obtain rfl := Option.some.inj h
          obtain ⟨inner, outer⟩ := suffix_of_namedPart part
          have shorter := inner.length_le
          have short := outer.length_le
          have same : (namedOpener number line (c :: rest)).endColumn =
              line.length - (c :: rest).length + (nameRun (c :: rest)).length := by
            rw [BlockOpener.endColumn, namedOpener]
            dsimp only
            omega
          rw [same]
          exact (realColumn_of_namedPart part).1
        next => contradiction
  | conditional | whileLoop | forLoop =>
    obtain ⟨rest, found, rfl⟩ := Option.map_eq_some_iff.mp h
    exact realColumn_of_keyword (by decide) found

/-- The part of a subroutine that is selected ends at a real column: it is as long as one blank between the keyword
and the name would need. -/
theorem realColumn_of_start {line : Text} {s : SubroutineStart} (h : subroutineStartOn? line = some s) :
    RealColumn line (s.column + 4 + s.name.length) := by
  cases part : namedPart? line with
  | none => simp [(subroutineStartOn?_of_no_name 0 (.inl part)).2] at h
  | some named =>
    cases named with
    | nil => simp [(subroutineStartOn?_of_no_name 0 (.inr part)).2] at h
    | cons c rest =>
      rw [subroutineStartOn?_of_namedPart part] at h
      split at h
      next =>
        obtain rfl := Option.some.inj h
        obtain ⟨real, wide⟩ := realColumn_of_namedPart part
        refine real.mono ?_
        have name : (namedOpener 0 line (c :: rest)).start.name = nameRun (c :: rest) := rfl
        have column : (namedOpener 0 line (c :: rest)).start.column =
            line.length - (trimStart line).length := rfl
        rw [name, column]
        omega
      next => contradiction

/-- A line that ends a subroutine has no character beyond the basic plane. -/
theorem realColumn_of_end {line : Text} (h : endsSubroutine line = true) : RealColumn line line.length := by
  obtain ⟨indent, split', blanks⟩ := append_trimStart line
  unfold endsSubroutine at h
  split at h
  next rest found =>
    obtain ⟨v, behind, spelled⟩ := dropWord?_eq_some_iff.mp found
    refine ⟨Nat.le_refl _, fun c hc => ?_⟩
    rw [List.take_length, split', behind, List.mem_append, List.mem_append] at hc
    rcases hc with hc | hc | hc
    · exact blanks c hc
    · exact isBasic_of_spelling spelled (by decide) c hc
    · exact isBasic_of_blank (List.all_eq_true.mp h c hc)
  next => contradiction

/-- An assignment: blanks, the name, which starts with a letter, blanks or none, the equals sign and what the value
is read from. -/
theorem assignmentOn?_parts {line : Text} {a : Assignment} (h : assignmentOn? line = some a) :
    ∃ indent gap after, line = indent ++ (a.name ++ (gap ++ '=' :: after)) ∧ a.column = indent.length ∧
      (∀ c ∈ indent ++ gap, isBlank c = true) ∧ (∀ c ∈ a.name, isNameChar c = true) ∧
      assignedValue? after = some a.value ∧ ∃ c rest, a.name = c :: rest ∧ isAsciiLetter c = true := by
  have indent : line = line.takeWhile isBlank ++ trimStart line := List.takeWhile_append_dropWhile.symm
  have blank : ∀ c ∈ line.takeWhile isBlank, isBlank c = true := fun c hc => List.mem_takeWhile_imp hc
  unfold assignmentOn? at h
  split at h
  next => contradiction
  next c rest body =>
    split at h
    next letter =>
      split at h
      next after equals =>
        obtain ⟨value, read, rfl⟩ := Option.map_eq_some_iff.mp h
        have behind : rest.dropWhile isNameChar = (rest.dropWhile isNameChar).takeWhile isBlank ++ '=' :: after := by
          rw [← equals]
          exact List.takeWhile_append_dropWhile.symm
        refine ⟨line.takeWhile isBlank, (rest.dropWhile isNameChar).takeWhile isBlank, after, ?_, ?_, ?_, ?_, read,
          c, rest.takeWhile isNameChar, rfl, letter⟩
        · dsimp only
          rw [← behind, List.cons_append, List.takeWhile_append_dropWhile, ← body]
          exact indent
        · have total := congrArg List.length indent
          rw [List.length_append, body] at total
          dsimp only
          omega
        · exact List.forall_mem_append.mpr ⟨blank, fun c hc => List.mem_takeWhile_imp hc⟩
        · intro d hd
          rcases List.mem_cons.mp hd with rfl | hd
          · exact isNameChar_of_letter letter
          · exact List.mem_takeWhile_imp hd
      next => contradiction
    next => contradiction

theorem realColumn_of_assignment {line : Text} {a : Assignment} (h : assignmentOn? line = some a) :
    RealColumn line (a.column + a.name.length) := by
  obtain ⟨indent, gap, after, parts, column, blank, name, _⟩ := assignmentOn?_parts h
  rw [column, ← List.length_append]
  rw [← List.append_assoc] at parts
  refine .of_append parts (fun c hc => ?_) (Nat.le_refl _)
  rcases List.mem_append.mp hc with hc | hc
  · exact isBasic_of_blank (blank c (List.mem_append_left gap hc))
  · have ascii := ascii_of_isNameChar (name c hc)
    unfold IsBasic
    omega

end BasicWorkbench
