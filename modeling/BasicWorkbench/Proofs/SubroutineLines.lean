import BasicWorkbench.SymbolScan
import BasicWorkbench.Proofs.TextMatches

namespace BasicWorkbench

def BlockOpener.start (b : BlockOpener) : SubroutineStart := ⟨b.column, b.name.getD []⟩

/-- Nothing but blanks stands behind the name of a subroutine, and the name does not start with an
underscore. -/
def opensAlone (b : BlockOpener) (line : Text) : Bool :=
  b.name.bind List.head? != some '_' && (line.drop b.endColumn).all isBlank

/-- Nothing but blanks stands behind the first word of a line that closes a subroutine. -/
def closesAlone (line : Text) : Bool :=
  ((trimStart line).drop BlockKind.subroutine.closer.length).all isBlank

theorem drop_of_suffix {s r : Text} (h : r <:+ s) (n : Nat) : s.drop (s.length - r.length + n) = r.drop n := by
  obtain ⟨t, rfl⟩ := h
  have length : (t ++ r).length - r.length = t.length := by
    rw [List.length_append]
    omega
  rw [length, ← List.drop_drop, List.drop_left]

def namedPart? (line : Text) : Option Text := (dropWord? "sub" (trimStart line)).bind dropBlanks?

theorem suffix_of_namedPart {line named : Text} (h : namedPart? line = some named) :
    named <:+ trimStart line ∧ trimStart line <:+ line := by
  obtain ⟨rest, word, skipped⟩ := Option.bind_eq_some_iff.mp h
  obtain ⟨v, behind, _⟩ := dropWord?_eq_some_iff.mp word
  obtain ⟨blanks, _, _, given, _⟩ := dropBlanks?_eq_some_iff.mp skipped
  refine ⟨⟨v ++ blanks, ?_⟩, List.dropWhile_suffix isBlank⟩
  rw [behind, given, List.append_assoc]

theorem foldChar_eq_underscore {c : Char} (h : foldChar c = '_') : c = '_' := by
  rcases foldChar_eq_or_letter c with kept | letter
  · rw [← h, kept]
  · rw [h] at letter
    contradiction

def nameRun (s : Text) : Text := s.takeWhile fun c => isNameChar (foldChar c)

theorem subroutineStartOn?_of_no_name {line : Text} (number : Nat)
    (h : namedPart? line = none ∨ namedPart? line = some []) :
    openerOn? .subroutine number line = none ∧ subroutineStartOn? line = none := by
  have same : (dropWord? (asciiLower BlockKind.subroutine.opener) (trimStart line)).bind dropBlanks? =
      namedPart? line := rfl
  have same' : (dropWord? "sub" (trimStart line)).bind dropBlanks? = namedPart? line := rfl
  unfold openerOn? subroutineStartOn?
  simp only [same, same']
  rcases h with none | empty
  · rw [none]
    exact ⟨rfl, rfl⟩
  · rw [empty]
    exact ⟨rfl, rfl⟩

def namedOpener (number : Nat) (line named : Text) : BlockOpener where
  kind := .subroutine
  line := number
  column := line.length - (trimStart line).length
  length := (trimStart line).length - named.length + (nameRun named).length
  name := some (nameRun named)

theorem openerOn?_of_namedPart {number : Nat} {line rest : Text} {c : Char}
    (h : namedPart? line = some (c :: rest)) :
    openerOn? .subroutine number line =
      if isAsciiLetter (foldChar c) || foldChar c == '_' then some (namedOpener number line (c :: rest))
      else none := by
  have read : (dropWord? (asciiLower BlockKind.subroutine.opener) (trimStart line)).bind dropBlanks? =
      some (c :: rest) := h
  simp only [openerOn?, read, takeName?, Option.bind_eq_bind, Option.bind_some]
  split
  · rfl
  · rfl

theorem subroutineStartOn?_of_namedPart {line rest : Text} {c : Char}
    (h : namedPart? line = some (c :: rest)) :
    subroutineStartOn? line =
      if isAsciiLetter (foldChar c) && ((c :: rest).drop (nameRun (c :: rest)).length).all isBlank then
        some (namedOpener 0 line (c :: rest)).start
      else none := by
  have read : (dropWord? "sub" (trimStart line)).bind dropBlanks? = some (c :: rest) := h
  simp only [subroutineStartOn?, read, takeName?, Option.bind_eq_bind, Option.bind_some]
  cases isAsciiLetter (foldChar c) with
  | false => rfl
  | true => rfl

theorem letter_of_named {c : Char} (named : (isAsciiLetter (foldChar c) || foldChar c == '_') = true) :
    isAsciiLetter (foldChar c) = (c != '_') := by
  by_cases underscore : c = '_'
  · subst underscore
    decide
  · have other : foldChar c ≠ '_' := fun same => underscore (foldChar_eq_underscore same)
    have letter : isAsciiLetter (foldChar c) = true := by simpa [other] using named
    rw [letter, bne_iff_ne.mpr underscore]

theorem isNameChar_of_letter {c : Char} (letter : isAsciiLetter c = true) : isNameChar c = true := by
  have alpha : c.isAlpha = true := letter
  simp [isNameChar, Char.isAlphanum, alpha]

theorem isNameChar_of_named {c : Char} (named : (isAsciiLetter (foldChar c) || foldChar c == '_') = true) :
    isNameChar (foldChar c) = true := by
  rcases Bool.or_eq_true_iff.mp named with letter | underscore
  · exact isNameChar_of_letter letter
  · simp [isNameChar, underscore]

theorem nameRun_cons {c : Char} (rest : Text)
    (named : (isAsciiLetter (foldChar c) || foldChar c == '_') = true) :
    nameRun (c :: rest) = c :: nameRun rest := by
  simp [nameRun, isNameChar_of_named named]

/-- What stands alone starts with a letter, for which the underscore does not count, and has blanks behind its
name. -/
theorem opensAlone_namedOpener (number : Nat) {line rest : Text} {c : Char}
    (h : namedPart? line = some (c :: rest))
    (named : (isAsciiLetter (foldChar c) || foldChar c == '_') = true) :
    opensAlone (namedOpener number line (c :: rest)) line =
      (isAsciiLetter (foldChar c) && ((c :: rest).drop (nameRun (c :: rest)).length).all isBlank) := by
  obtain ⟨inner, outer⟩ := suffix_of_namedPart h
  have behind : line.drop (namedOpener number line (c :: rest)).endColumn =
      (c :: rest).drop (nameRun (c :: rest)).length := by
    rw [BlockOpener.endColumn, namedOpener, drop_of_suffix outer, drop_of_suffix inner]
  have first : (namedOpener number line (c :: rest)).name.bind List.head? = some c := by
    rw [namedOpener, nameRun_cons rest named]
    rfl
  rw [opensAlone, first, behind, letter_of_named named]
  rfl

/-- A line starts a subroutine of the outline exactly if it opens one and holds nothing else. -/
theorem subroutineStartOn?_eq (number : Nat) (line : Text) :
    subroutineStartOn? line =
      ((openerOn? .subroutine number line).filter (opensAlone · line)).map BlockOpener.start := by
  cases h : namedPart? line with
  | none =>
    obtain ⟨noOpener, noStart⟩ := subroutineStartOn?_of_no_name number (.inl h)
    rw [noOpener, noStart]
    rfl
  | some named =>
    cases named with
    | nil =>
      obtain ⟨noOpener, noStart⟩ := subroutineStartOn?_of_no_name number (.inr h)
      rw [noOpener, noStart]
      rfl
    | cons c rest =>
      rw [openerOn?_of_namedPart h, subroutineStartOn?_of_namedPart h]
      cases named : isAsciiLetter (foldChar c) || foldChar c == '_' with
      | false =>
        have noLetter : isAsciiLetter (foldChar c) = false := (Bool.or_eq_false_iff.mp named).1
        rw [noLetter]
        rfl
      | true =>
        rw [if_pos rfl, Option.filter_some, opensAlone_namedOpener number h named]
        split
        · rfl
        · rfl

theorem not_word_of_blank {c : Char} (blank : isBlank c = true) : isWord c = false := by
  by_cases ascii : c.toNat < 128
  · exact forall_ascii (p := fun c => isBlank c = true → isWord c = false) (by decide) ascii blank
  · have beyond : c.toNat ∈ [0x85, 0xa0, 0x1680, 0x2000, 0x2001, 0x2002, 0x2003, 0x2004, 0x2005, 0x2006,
        0x2007, 0x2008, 0x2009, 0x200a, 0x2028, 0x2029, 0x202f, 0x205f, 0x3000] := by
      simp only [isBlank, Bool.or_eq_true, Bool.and_eq_true, decide_eq_true_eq] at blank
      simp only [List.mem_cons, List.not_mem_nil, or_false]
      omega
    have table : ∀ n ∈ [0x85, 0xa0, 0x1680, 0x2000, 0x2001, 0x2002, 0x2003, 0x2004, 0x2005, 0x2006,
        0x2007, 0x2008, 0x2009, 0x200a, 0x2028, 0x2029, 0x202f, 0x205f, 0x3000],
        inRanges wordRanges n = false := by decide +kernel
    rw [isWord, if_neg ascii]
    exact table _ beyond

/-- What closes a subroutine of the outline closes one for the block check, and stands alone. -/
theorem endsSubroutine_eq (line : Text) :
    endsSubroutine line = (closesOn .subroutine line && closesAlone line) := by
  cases word : dropWord? "endsub" (trimStart line) with
  | none =>
    have word' : dropWord? (asciiLower BlockKind.subroutine.closer) (trimStart line) = none := word
    simp only [endsSubroutine, word, closesOn, dropKeyword?, word']
    rfl
  | some rest =>
    have word' : dropWord? (asciiLower BlockKind.subroutine.closer) (trimStart line) = some rest := word
    obtain ⟨v, split', spelled⟩ := dropWord?_eq_some_iff.mp word
    have length : BlockKind.subroutine.closer.length = v.length := by
      have mapped : (v.map foldChar).length = v.length := List.length_map foldChar
      rw [← mapped, spelled]
      rfl
    have behind : (trimStart line).drop BlockKind.subroutine.closer.length = rest := by
      rw [split', length, List.drop_left]
    simp only [endsSubroutine, word, closesOn, dropKeyword?, word', closesAlone, behind]
    cases rest with
    | nil => rfl
    | cons c rest =>
      cases blank : isBlank c with
      | false => simp [blank]
      | true => simp [blank, not_word_of_blank blank]

theorem openerOn?_of_closes {line : Text} (closes : closesOn .subroutine line = true) (number : Nat) :
    openerOn? .subroutine number line = none := by
  refine (subroutineStartOn?_of_no_name number (.inl ?_)).1
  cases word : dropWord? "endsub" (trimStart line) with
  | none =>
    have word' : dropWord? (asciiLower BlockKind.subroutine.closer) (trimStart line) = none := word
    simp [closesOn, dropKeyword?, word'] at closes
  | some rest =>
    obtain ⟨v, behind, spelled⟩ := dropWord?_eq_some_iff.mp word
    obtain ⟨c, v, rfl, first, _⟩ := List.map_eq_cons_iff.mp spelled
    have differs : foldChar c ≠ 's' := by rw [first]; decide
    have other : dropWord? "sub" (trimStart line) = none := by
      rw [behind]
      exact if_neg differs
    rw [namedPart?, other]
    rfl

end BasicWorkbench
