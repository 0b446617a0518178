import BasicWorkbench.Proofs.BlockScans
import BasicWorkbench.Proofs.LineColumns

namespace BasicWorkbench

/-- A line cut behind its first word, which is the given one in letters of any case. -/
structure FirstWord (word line indent spelled rest : Text) : Prop where
  parts : line = indent ++ (spelled ++ rest)
  blank : ∀ c ∈ indent, isBlank c = true
  spelling : spelled.map foldChar = word

theorem FirstWord.length_eq {word line indent spelled rest : Text}
    (first : FirstWord (asciiLower word) line indent spelled rest) : word.length = spelled.length := by
  have same : (spelled.map foldChar).length = (word.map Char.toLower).length := congrArg List.length first.spelling
  rw [List.length_map, List.length_map] at same
  exact same.symm

/-- The text does not go on with the word in front of it. -/
def EndsWord (rest : Text) : Prop := ∀ c, rest.head? = some c → isWord c = false

section Words

variable {word line : Text} (nonempty : word ≠ []) (solid : word.all (!isBlank ·) = true)

include nonempty solid

theorem FirstWord.trimStart_eq {indent spelled rest : Text} (first : FirstWord word line indent spelled rest) :
    trimStart line = spelled ++ rest := by
  rw [first.parts, trimStart_of_blanks first.blank]
  exact trimStart_of_spelling nonempty solid first.spelling rest

theorem FirstWord.column_eq {indent spelled rest : Text} (first : FirstWord word line indent spelled rest) :
    line.length - (trimStart line).length = indent.length := by
  rw [first.trimStart_eq nonempty solid, first.parts, List.length_append]
  omega

theorem dropWord?_trimStart_iff {rest : Text} :
    dropWord? word (trimStart line) = some rest ↔ ∃ indent spelled, FirstWord word line indent spelled rest := by
  constructor
  · intro found
    obtain ⟨spelled, behind, spelling⟩ := dropWord?_eq_some_iff.mp found
    obtain ⟨indent, parts, blank⟩ := exists_indent line
    exact ⟨indent, spelled, by rwa [← behind], blank, spelling⟩
  · rintro ⟨indent, spelled, first⟩
    rw [first.trimStart_eq nonempty solid]
    exact dropWord?_eq_some_iff.mpr ⟨spelled, rfl, first.spelling⟩

end Words

theorem dropKeyword?_eq_some_iff {word s rest : Text} :
    dropKeyword? word s = some rest ↔ dropWord? (asciiLower word) s = some rest ∧ EndsWord rest := by
  unfold dropKeyword? EndsWord
  cases dropWord? (asciiLower word) s with
  | none => simp
  | some found =>
    cases found with
    | nil =>
      constructor
      · intro same
        cases same
        simp
      · rintro ⟨same, _⟩
        exact same
    | cons c found =>
      cases letter : isWord c with
      | true =>
        constructor
        · intro none
          simp [letter] at none
        · rintro ⟨same, ends⟩
          cases same
          simp [ends c rfl] at letter
      | false =>
        simp only [letter, Bool.false_eq_true, if_false]
        constructor
        · intro same
          cases same
          simp [letter]
        · rintro ⟨same, _⟩
          exact same

/-- What a line can do to the blocks of a kind: open one or close one. -/
inductive BlockEvent where
  | opening (kind : BlockKind)
  | closing (kind : BlockKind)
  deriving DecidableEq, Repr

namespace BlockEvent

def keyword : BlockEvent → Text
  | opening kind => kind.opener
  | closing kind => kind.closer

/-- What may follow the keyword: where a subroutine opens, blanks and the start of a name, and else all that does
not go on with the word. -/
def Allows : BlockEvent → Text → Prop
  | opening .subroutine, rest =>
    ∃ gap c behind, rest = gap ++ c :: behind ∧ gap ≠ [] ∧ (∀ d ∈ gap, isBlank d = true) ∧
      (isAsciiLetter (foldChar c) || foldChar c == '_') = true
  | _, rest => EndsWord rest

def IsOn (event : BlockEvent) (line : Text) : Prop :=
  ∃ indent spelled rest, FirstWord (asciiLower event.keyword) line indent spelled rest ∧ event.Allows rest

theorem keyword_ne_nil (event : BlockEvent) : asciiLower event.keyword ≠ [] := by
  cases event with
  | opening kind => cases kind <;> decide
  | closing kind => cases kind <;> decide

theorem keyword_solid (event : BlockEvent) : (asciiLower event.keyword).all (!isBlank ·) = true := by
  cases event with
  | opening kind => cases kind <;> decide
  | closing kind => cases kind <;> decide

/-- No keyword is the start of another one. -/
theorem eq_of_keyword_starts {event other : BlockEvent}
    (start : asciiLower event.keyword <+: asciiLower other.keyword) : event = other := by
  have table : ∀ kind kind' : BlockKind,
      (asciiLower (opening kind).keyword <+: asciiLower (opening kind').keyword → kind = kind') ∧
        (asciiLower (closing kind).keyword <+: asciiLower (closing kind').keyword → kind = kind') ∧
        ¬asciiLower (opening kind).keyword <+: asciiLower (closing kind').keyword ∧
        ¬asciiLower (closing kind).keyword <+: asciiLower (opening kind').keyword := by
    intro kind kind'
    cases kind <;> cases kind' <;> decide
  cases event with
  | opening kind =>
    cases other with
    | opening kind' => rw [(table kind kind').1 start]
    | closing kind' => exact absurd start (table kind kind').2.2.1
  | closing kind =>
    cases other with
    | opening kind' => exact absurd start (table kind kind').2.2.2
    | closing kind' => rw [(table kind kind').2.1 start]

theorem IsOn.keyword_starts {event : BlockEvent} {line : Text} (here : event.IsOn line) :
    asciiLower event.keyword <+: (trimStart line).map foldChar := by
  obtain ⟨indent, spelled, rest, first, _⟩ := here
  rw [first.trimStart_eq event.keyword_ne_nil event.keyword_solid, List.map_append, first.spelling]
  exact List.prefix_append _ _

theorem IsOn.unique {event other : BlockEvent} {line : Text} (here : event.IsOn line) (there : other.IsOn line) :
    event = other := by
  rcases List.prefix_or_prefix_of_prefix here.keyword_starts there.keyword_starts with start | start
  · exact eq_of_keyword_starts start
  · exact (eq_of_keyword_starts start).symm

end BlockEvent

/-- The opener tells what stands on the line: the column behind the blanks in front, the length of the keyword,
for a subroutine up to the end of its name, and that name, which is as long as it can be. -/
inductive BlockOpener.IsOn (line : Text) : BlockOpener → Prop
  | keyword {kind : BlockKind} (number : Nat) {indent spelled rest : Text} (other : kind ≠ .subroutine)
      (first : FirstWord (asciiLower kind.opener) line indent spelled rest) (ends : EndsWord rest) :
      IsOn line ⟨kind, number, indent.length, spelled.length, none⟩
  | subroutine (number : Nat) {indent spelled gap rest : Text} {c : Char}
      (first : FirstWord (asciiLower BlockKind.subroutine.opener) line indent spelled (gap ++ c :: rest))
      (apart : gap ≠ []) (blank : ∀ d ∈ gap, isBlank d = true)
      (named : (isAsciiLetter (foldChar c) || foldChar c == '_') = true) :
      IsOn line ⟨.subroutine, number, indent.length, spelled.length + gap.length + (nameRun (c :: rest)).length,
        some (nameRun (c :: rest))⟩

theorem namedPart?_eq_some_iff {line named : Text} :
    namedPart? line = some named ↔
      ∃ indent spelled gap,
        FirstWord (asciiLower BlockKind.subroutine.opener) line indent spelled (gap ++ named) ∧
        gap ≠ [] ∧ (∀ d ∈ gap, isBlank d = true) ∧ trimStart named = named := by
  have word : ∀ rest, dropWord? "sub" (trimStart line) = some rest ↔
      ∃ indent spelled, FirstWord "sub" line indent spelled rest := fun rest =>
    dropWord?_trimStart_iff (by decide) (by decide)
  rw [namedPart?, Option.bind_eq_some_iff]
  constructor
  · rintro ⟨rest, found, skipped⟩
    obtain ⟨indent, spelled, first⟩ := (word rest).mp found
    obtain ⟨gap, apart, blank, rfl, start⟩ := dropBlanks?_eq_some_iff.mp skipped
    exact ⟨indent, spelled, gap, first, apart, blank, start⟩
  · rintro ⟨indent, spelled, gap, first, apart, blank, start⟩
    exact ⟨gap ++ named, (word _).mpr ⟨indent, spelled, first⟩,
      dropBlanks?_eq_some_iff.mpr ⟨gap, apart, blank, rfl, start⟩⟩

theorem closesOn_iff {kind : BlockKind} {line : Text} :
    closesOn kind line = true ↔ (BlockEvent.closing kind).IsOn line := by
  have nonempty := (BlockEvent.closing kind).keyword_ne_nil
  have solid := (BlockEvent.closing kind).keyword_solid
  rw [closesOn, Option.isSome_iff_exists]
  constructor
  · rintro ⟨rest, found⟩
    obtain ⟨word, ends⟩ := dropKeyword?_eq_some_iff.mp found
    obtain ⟨indent, spelled, first⟩ := (dropWord?_trimStart_iff nonempty solid).mp word
    exact ⟨indent, spelled, rest, first, ends⟩
  · rintro ⟨indent, spelled, rest, first, ends⟩
    have word := (dropWord?_trimStart_iff nonempty solid).mpr ⟨indent, spelled, first⟩
    exact ⟨rest, dropKeyword?_eq_some_iff.mpr ⟨word, ends⟩⟩

theorem openerOn?_of_other {kind : BlockKind} (other : kind ≠ .subroutine) (number : Nat) (line : Text) :
    openerOn? kind number line = (dropKeyword? kind.opener (trimStart line)).map fun _ =>
      ⟨kind, number, line.length - (trimStart line).length, kind.opener.length, none⟩ := by
  cases kind with
  | subroutine => exact absurd rfl other
  | conditional | whileLoop | forLoop => rfl

theorem solid_of_named {c : Char} (named : (isAsciiLetter (foldChar c) || foldChar c == '_') = true) :
    isBlank c = false := by
  have name := isNameChar_of_named named
  rw [← isBlank_foldChar]
  exact not_blank_of_isNameChar name

theorem namedOpener_eq {line indent spelled gap named : Text} (number : Nat)
    (first : FirstWord (asciiLower BlockKind.subroutine.opener) line indent spelled (gap ++ named)) :
    namedOpener number line named =
      ⟨.subroutine, number, indent.length, spelled.length + gap.length + (nameRun named).length,
        some (nameRun named)⟩ := by
  have nonempty := (BlockEvent.opening .subroutine).keyword_ne_nil
  have solid := (BlockEvent.opening .subroutine).keyword_solid
  have length : (trimStart line).length - named.length = spelled.length + gap.length := by
    rw [first.trimStart_eq nonempty solid, List.length_append, List.length_append]
    omega
  rw [namedOpener, first.column_eq nonempty solid, length]

theorem BlockOpener.isOn_of_openerOn? {kind : BlockKind} {number : Nat} {line : Text} {b : BlockOpener}
    (found : openerOn? kind number line = some b) : b.IsOn line := by
  have nonempty := (BlockEvent.opening kind).keyword_ne_nil
  have solid := (BlockEvent.opening kind).keyword_solid
  by_cases other : kind = .subroutine
  · subst other
    cases part : namedPart? line with
    | none => simp [(subroutineStartOn?_of_no_name number (.inl part)).1] at found
    | some named =>
      cases named with
      | nil => simp [(subroutineStartOn?_of_no_name number (.inr part)).1] at found
      | cons c rest =>
        rw [openerOn?_of_namedPart part] at found
        split at found
        next named =>
          obtain rfl := Option.some.inj found
          obtain ⟨indent, spelled, gap, first, apart, blank, _⟩ := namedPart?_eq_some_iff.mp part
          rw [namedOpener_eq number first]
          exact .subroutine number first apart blank named
        next => contradiction
  · rw [openerOn?_of_other other] at found
    obtain ⟨rest, word, rfl⟩ := Option.map_eq_some_iff.mp found
    obtain ⟨spelling, ends⟩ := dropKeyword?_eq_some_iff.mp word
    obtain ⟨indent, spelled, first⟩ := (dropWord?_trimStart_iff nonempty solid).mp spelling
    have column := first.column_eq nonempty solid
    have length : kind.opener.length = spelled.length := first.length_eq
    rw [column, length]
    exact .keyword number other first ends

theorem BlockOpener.IsOn.openerOn? {line : Text} {b : BlockOpener} (here : b.IsOn line) :
    openerOn? b.kind b.line line = some b := by
  cases here with
  | @keyword kind number indent spelled rest other first ends =>
    have nonempty := (BlockEvent.opening kind).keyword_ne_nil
    have solid := (BlockEvent.opening kind).keyword_solid
    have word : dropKeyword? kind.opener (trimStart line) = some rest :=
      dropKeyword?_eq_some_iff.mpr
        ⟨(dropWord?_trimStart_iff nonempty solid).mpr ⟨indent, spelled, first⟩, ends⟩
    have length : kind.opener.length = spelled.length := first.length_eq
    rw [openerOn?_of_other other, word, first.column_eq nonempty solid, length]
    rfl
  | @subroutine number indent spelled gap rest c first apart blank named =>
    have start : trimStart (c :: rest) = c :: rest := trimStart_of_not_blank (solid_of_named named) rest
    have part := namedPart?_eq_some_iff.mpr ⟨indent, spelled, gap, first, apart, blank, start⟩
    rw [openerOn?_of_namedPart part, if_pos named, namedOpener_eq number first]

theorem openerOn?_eq_some_iff {kind : BlockKind} {number : Nat} {line : Text} {b : BlockOpener} :
    openerOn? kind number line = some b ↔ b.kind = kind ∧ b.line = number ∧ b.IsOn line := by
  constructor
  · intro found
    obtain ⟨same, place, _⟩ := openerOn?_eq_some found
    exact ⟨same, place, b.isOn_of_openerOn? found⟩
  · rintro ⟨rfl, rfl, here⟩
    exact here.openerOn?

theorem openerOn?_isSome_iff {kind : BlockKind} (number : Nat) {line : Text} :
    (openerOn? kind number line).isSome = true ↔ (BlockEvent.opening kind).IsOn line := by
  rw [Option.isSome_iff_exists]
  constructor
  · rintro ⟨b, found⟩
    obtain ⟨rfl, _, here⟩ := openerOn?_eq_some_iff.mp found
    cases here with
    | @keyword kind _ indent spelled rest other first ends =>
      refine ⟨indent, spelled, rest, first, ?_⟩
      cases kind with
      | subroutine => exact absurd rfl other
      | conditional | whileLoop | forLoop => exact ends
    | @subroutine _ indent spelled gap rest c first apart blank named =>
      exact ⟨indent, spelled, gap ++ c :: rest, first, gap, c, rest, rfl, apart, blank, named⟩
  · rintro ⟨indent, spelled, rest, first, allowed⟩
    by_cases other : kind = .subroutine
    · subst other
      obtain ⟨gap, c, behind, rfl, apart, blank, named⟩ := allowed
      have here := BlockOpener.IsOn.subroutine number first apart blank named
      exact ⟨_, here.openerOn?⟩
    · have ends : EndsWord rest := by
        cases kind with
        | subroutine => exact absurd rfl other
        | conditional | whileLoop | forLoop => exact allowed
      have here := BlockOpener.IsOn.keyword number other first ends
      exact ⟨_, here.openerOn?⟩

theorem BlockEvent.opening_iff {kind : BlockKind} {line : Text} :
    (BlockEvent.opening kind).IsOn line ↔ ∃ b : BlockOpener, b.kind = kind ∧ b.IsOn line := by
  constructor
  · intro opens
    obtain ⟨b, found⟩ := Option.isSome_iff_exists.mp ((openerOn?_isSome_iff 0).mpr opens)
    obtain ⟨same, _, here⟩ := openerOn?_eq_some_iff.mp found
    exact ⟨b, same, here⟩
  · rintro ⟨b, rfl, here⟩
    exact (openerOn?_isSome_iff b.line).mp (Option.isSome_of_mem here.openerOn?)

theorem BlockOpener.IsOn.unique {line : Text} {b c : BlockOpener} (hb : b.IsOn line) (hc : c.IsOn line)
    (place : b.line = c.line) : b = c := by
  have opens := BlockEvent.opening_iff.mpr ⟨b, rfl, hb⟩
  have opens' := BlockEvent.opening_iff.mpr ⟨c, rfl, hc⟩
  have kind : b.kind = c.kind := BlockEvent.opening.inj (opens.unique opens')
  have found := hb.openerOn?
  rw [kind, place, hc.openerOn?] at found
  exact (Option.some.inj found).symm

instance (event : BlockEvent) (line : Text) : Decidable (event.IsOn line) :=
  match event with
  | .opening _ => decidable_of_iff _ (openerOn?_isSome_iff 0)
  | .closing _ => decidable_of_iff _ closesOn_iff

end BasicWorkbench
