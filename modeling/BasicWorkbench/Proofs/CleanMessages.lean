import BasicWorkbench.Proofs.DetailLines
import BasicWorkbench.Proofs.ErrorPlaces
import BasicWorkbench.Proofs.JoinedScans
import BasicWorkbench.Proofs.PlainScans

namespace BasicWorkbench

theorem trim_trim (s : Text) : trim (trim s) = trim s := by
  have ends : trimEnd (trim s) = trim s := by
    rw [trim, trimEnd, trimEnd, List.reverse_reverse]
    exact congrArg List.reverse (trimStart_trimStart _)
  obtain ⟨blanks, parts⟩ := prefix_of_trim s
  refine trim_eq_self_iff.mpr ⟨fun c hc => ?_, trimEnd_eq_self_iff.mp ends⟩
  refine trimStart_eq_self_iff.mp (trimStart_trimStart s) c ?_
  rw [← parts, List.head?_append, hc]
  rfl

theorem fillsLine_trim {output raw : Text} (line : raw ∈ outputLines output) (filled : trim raw ≠ []) :
    FillsLine (trim raw) where
  nonempty := filled
  trimmed := trim_trim raw
  unbroken := fun c hc => not_separator_of_mem_outputLines output raw line c ((infix_of_trim raw).subset hc)

theorem FillsLine.enclose {a b s : Text} (first : FillsLine a) (last : FillsLine b)
    (unbroken : ∀ c ∈ s, isSeparator c = false) : FillsLine (a ++ (s ++ b)) where
  nonempty := by simp [first.nonempty]
  trimmed := by
    refine trim_eq_self_iff.mpr ⟨fun c hc => ?_, fun c hc => ?_⟩
    · rw [List.head?_append_of_ne_nil _ first.nonempty] at hc
      exact (trim_eq_self_iff.mp first.trimmed).1 c hc
    · rw [← List.append_assoc, List.getLast?_append_of_ne_nil _ last.nonempty] at hc
      exact (trim_eq_self_iff.mp last.trimmed).2 c hc
  unbroken := fun c hc => by
    rcases List.mem_append.mp hc with hc | hc
    · exact first.unbroken c hc
    · exact (List.mem_append.mp hc).elim (unbroken c) (last.unbroken c)

theorem digits_of_summaryCount {line count : Text} (counted : summaryCount? line = some count) :
    ∀ c ∈ count, c.isDigit = true := by
  obtain ⟨rest, _, counted⟩ := List.exists_of_findSome?_eq_some counted
  obtain ⟨_, _, _, _, _, _, numeric, _⟩ := errorCount?_eq_some counted
  exact numeric

theorem FillsLine.counted {a b count : Text} (first : FillsLine a) (last : FillsLine b)
    (numeric : ∀ c ∈ count, c.isDigit = true) : FillsLine (a ++ ' ' :: (count ++ ' ' :: b)) := by
  have blank : isSeparator ' ' = false := by decide
  have enclosed : FillsLine (a ++ (' ' :: (count ++ [' ']) ++ b)) := by
    refine first.enclose last fun c hc => ?_
    rcases List.mem_cons.mp hc with rfl | hc
    · exact blank
    · rcases List.mem_append.mp hc with hc | hc
      · exact not_separator_of_ascii_digit (numeric c hc)
      · rwa [List.mem_singleton.mp hc]
  simpa using enclosed

theorem fillsLine_summaryProblem {line count : Text} (counted : summaryCount? line = some count) :
    FillsLine (summaryProblem count).message :=
  FillsLine.counted (a := "The program has") (b := "errors. See detailed messages below.") (by decide) (by decide)
    (digits_of_summaryCount counted)

theorem fillsLine_countSummary {line : Text} {sighting : Sighting} (found : countSummary? line = some sighting) :
    FillsLine sighting.message := by
  obtain ⟨count, counted, rfl⟩ := Option.map_eq_some_iff.mp found
  obtain ⟨t, _, counted⟩ := exists_suffix_of_leftmost counted
  exact FillsLine.counted (a := "File contains") (b := "errors") (by decide) (by decide)
    (digits_of_summaryCount counted)

section Lines

variable {line : Text} (fills : FillsLine line)

include fills

/-- A message behind blanks fills what is left of its line. -/
theorem FillsLine.of_message {finish : Text → Bool} {s message : Text} (within : s <:+ line)
    (stops : finish [] = true) (read : messageAfterBlanks? finish s = some message) : FillsLine message := by
  rw [fills.messageAfterBlanks?_eq within stops] at read
  obtain ⟨gap, apart, blank, rfl, start⟩ := dropBlanks?_eq_some_iff.mp read
  refine fills.of_suffix ((List.suffix_append gap message).trans within) ?_ start
  rintro rfl
  have nonempty : gap ++ [] ≠ [] := by simpa using apart
  exact trimStart_ne_nil_of_suffix fills.trimmed nonempty within (by rw [trimStart_of_blanks blank]; rfl)

theorem FillsLine.of_detail {sighting : Sighting} (found : detail? line = some sighting) :
    FillsLine sighting.message := by
  obtain ⟨_, _, rest, message, rfl, _, _, within, read⟩ := detail?_spec found
  exact fills.of_message within rfl read

theorem FillsLine.of_lineMessage {sighting : Sighting} (found : lineMessage? line = some sighting) :
    FillsLine sighting.message := by
  obtain ⟨_, rest, message, rfl, _, within, read⟩ := lineMessage?_eq_some found
  exact fills.of_message within rfl read

theorem FillsLine.of_syntaxError {sighting : Sighting} (found : syntaxError? line = some sighting) :
    FillsLine sighting.message := by
  obtain ⟨_, rest, rfl, _, within⟩ := syntaxError?_eq_some found
  have told : FillsLine ((openMessage? (dropOptional ':' rest)).getD "Invalid syntax") := by
    cases read : openMessage? (dropOptional ':' rest) with
    | none =>
      rw [Option.getD_none]
      decide
    | some message => exact fills.of_message ((suffix_of_dropOptional ':' rest).trans within) rfl read
  have label : "Syntax error: ".toList = "Syntax error:".toList ++ [' '] := rfl
  have blank : ∀ c ∈ [' '], isSeparator c = false := forall_mem_of_all (by decide)
  rw [label, List.append_assoc]
  exact FillsLine.enclose (by decide) told blank

theorem FillsLine.of_errorMessage {sighting : Sighting} (found : errorMessage? line = some sighting) :
    FillsLine sighting.message := by
  obtain ⟨rest, message, rfl, within, read⟩ := errorMessage?_eq_some found
  exact fills.of_message within rfl read

theorem FillsLine.of_looseMention {sighting : Sighting} (found : looseMention? line = some sighting) :
    FillsLine sighting.message := by
  unfold looseMention? at found
  split at found
  next =>
    obtain rfl := Option.some.inj found
    exact fills
  next => simp at found

theorem FillsLine.of_shape {shape : ReportShape} {sighting : Sighting} (other : shape ≠ .errorAtLine)
    (found : shape.sighting? line = some sighting) : FillsLine sighting.message := by
  cases shape with
  | errorAtLine => exact absurd rfl other
  | lineMessage => exact fills.of_lineMessage found
  | countSummary => exact fillsLine_countSummary found
  | syntaxError => exact fills.of_syntaxError found
  | errorMessage => exact fills.of_errorMessage found

theorem FillsLine.of_firstShape {shapes : List ReportShape} {sighting : Sighting} (others : .errorAtLine ∉ shapes)
    (found : firstShape? shapes line = some sighting) : FillsLine sighting.message := by
  induction shapes with
  | nil => simp [firstShape?] at found
  | cons shape shapes ih =>
    obtain ⟨other, others⟩ := not_or.mp (mt List.mem_cons.mpr others)
    rcases Option.or_eq_some_iff.mp found with here | ⟨_, later⟩
    · exact fills.of_shape (Ne.symm other) here
    · exact ih others later

/-- The message that is read from a line without a summary before it fills its place, unless the line tells
nothing. -/
theorem FillsLine.plain_cases {sighting : Sighting} (found : lineSighting? false line = some sighting) :
    (¬TellsNothing line ∧ FillsLine sighting.message) ∨ (TellsNothing line ∧ IsLoneBlank sighting.message) := by
  cases placed : errorAtLine? line with
  | some sighting' =>
    obtain rfl : sighting' = sighting := Option.some.inj ((lineSighting?_of_errorAtLine placed).symm.trans found)
    exact fills.errorAtLine_cases placed
  | none =>
    have telling : ¬TellsNothing line := fun hollow => by
      have found' := fills.errorAtLine_of_tellsNothing hollow
      rw [placed] at found'
      contradiction
    have found' : (firstShape? (ReportShape.all.drop 1) line).or (looseMention? line) = some sighting := by
      rw [← found]
      simp [lineSighting?, ReportShape.all, firstShape?, ReportShape.sighting?, placed]
    rcases Option.or_eq_some_iff.mp found' with shape | ⟨_, loose⟩
    · exact .inl ⟨telling, fills.of_firstShape (by decide) shape⟩
    · exact .inl ⟨telling, fills.of_looseMention loose⟩

end Lines

/-- A raw line of which a blank is read: it tells nothing, counts no errors and is not read as a detail. -/
structure TellsBlank (detailed : Bool) (raw : Text) : Prop where
  hollow : TellsNothing (trim raw)
  uncounted : summaryCount? (trim raw) = none
  plain : detailed = true → detail? (trim raw) = none

theorem IsLoneBlank.not_fillsLine {s : Text} (lone : IsLoneBlank s) : ¬FillsLine s := by
  rintro ⟨_, trimmed, _⟩
  obtain ⟨b, blank, _, rfl⟩ := lone
  rw [(trim_eq_self_iff.mp trimmed).1 b rfl] at blank
  exact Bool.false_ne_true blank

section Outputs

variable {output : Text}

/-- What a line of output tells fills its place or is a blank. -/
theorem sightingOn?_cases {detailed : Bool} {raw : Text} {sighting : Sighting} (line : raw ∈ outputLines output)
    (found : sightingOn? detailed raw = some sighting) :
    (¬TellsBlank detailed raw ∧ FillsLine sighting.message) ∨
      (TellsBlank detailed raw ∧ IsLoneBlank sighting.message) := by
  simp only [sightingOn?] at found
  split at found
  next => simp at found
  next kept =>
    have fills : FillsLine (trim raw) := fillsLine_trim line fun empty => kept (by simp [empty])
    split at found
    next count counted =>
      obtain rfl := Option.some.inj found
      refine .inl ⟨fun blank => ?_, fillsLine_summaryProblem counted⟩
      exact Option.some_ne_none _ (counted.symm.trans blank.uncounted)
    next uncounted =>
      cases detail : (if detailed then detail? (trim raw) else none) with
      | some told =>
        obtain rfl : told = sighting := by simpa [lineSighting?, detail] using found
        have detail' : detailed = true ∧ detail? (trim raw) = some told := by simpa using detail
        refine .inl ⟨fun blank => ?_, fills.of_detail detail'.2⟩
        exact Option.some_ne_none _ (detail'.2.symm.trans (blank.plain detail'.1))
      | none =>
        have plain : lineSighting? false (trim raw) = some sighting := by
          rw [← found]
          simp [lineSighting?, detail]
        have undetailed : detailed = true → detail? (trim raw) = none := by
          rintro rfl
          exact detail
        rcases fills.plain_cases plain with ⟨telling, filled⟩ | ⟨hollow, lone⟩
        · exact .inl ⟨fun blank => telling blank.hollow, filled⟩
        · exact .inr ⟨⟨hollow, uncounted, undetailed⟩, lone⟩

theorem TellsBlank.sightingOn?_isSome {detailed : Bool} {raw : Text} (blank : TellsBlank detailed raw)
    (line : raw ∈ outputLines output) (erring : hasZeroSummary (trim raw) = false) :
    (sightingOn? detailed raw).isSome = true := by
  have filled : trim raw ≠ [] := by
    intro empty
    obtain ⟨s, after, _⟩ := blank.hollow
    rw [empty] at after
    exact Option.some_ne_none s (show none = some s from after).symm
  have placed := (fillsLine_trim line filled).errorAtLine_of_tellsNothing blank.hollow
  obtain ⟨sighting, placed⟩ := Option.isSome_iff_exists.mp placed
  have filled' : (trim raw).isEmpty = false := by simpa using filled
  have undetailed : (if detailed then detail? (trim raw) else none) = none := by
    cases detailed with
    | false => rfl
    | true => exact blank.plain rfl
  simp [sightingOn?, filled', erring, blank.uncounted, lineSighting?, undetailed, ReportShape.all, firstShape?,
    ReportShape.sighting?, placed]

theorem message_of_scanReport {problems : List Problem} (read : scanReport output = .ok problems) {message : Text} :
    message ∈ problems.map (·.message) ↔ ∃ front raw rest sighting, outputLines output = front ++ raw :: rest ∧
      sightingOn? (front.any startsDetails) raw = some sighting ∧ sighting.message = message := by
  have made : (reportSightings output).mapM Sighting.problem = .ok problems := (scanLines_eq _ _).symm.trans read
  rw [map_eq_of_mapM_problem (fun kept => kept.message) made, List.mem_map]
  constructor
  · rintro ⟨sighting, told, same⟩
    obtain ⟨front, raw, rest, lines, found⟩ := mem_sightingsOn.mp told
    exact ⟨front, raw, rest, sighting, lines, by rwa [Bool.false_or] at found, same⟩
  · rintro ⟨front, raw, rest, sighting, lines, found, same⟩
    exact ⟨sighting, mem_sightingsOn.mpr ⟨front, raw, rest, lines, by rwa [Bool.false_or]⟩, same⟩

/-- The messages of a report are filled lines or lone blanks; where no summary counts zero errors, there is a
blank exactly if a line tells one. -/
theorem scanReport_messages (erring : hasZeroSummary output = false) {problems : List Problem}
    (read : scanReport output = .ok problems) :
    (∀ p ∈ problems, FillsLine p.message ∨ IsLoneBlank p.message) ∧
      ((∀ p ∈ problems, FillsLine p.message) ↔
        ∀ front raw rest, outputLines output = front ++ raw :: rest → ¬TellsBlank (front.any startsDetails) raw) := by
  have within : ∀ {front raw rest}, outputLines output = front ++ raw :: rest → raw ∈ outputLines output :=
    fun lines => lines ▸ List.mem_append_right _ List.mem_cons_self
  have told : ∀ p ∈ problems, ∃ front raw rest, outputLines output = front ++ raw :: rest ∧
      ((¬TellsBlank (front.any startsDetails) raw ∧ FillsLine p.message) ∨
        (TellsBlank (front.any startsDetails) raw ∧ IsLoneBlank p.message)) := by
    intro p hp
    obtain ⟨front, raw, rest, sighting, lines, found, same⟩ :=
      (message_of_scanReport read).mp (List.mem_map_of_mem hp)
    exact ⟨front, raw, rest, lines, same ▸ sightingOn?_cases (within lines) found⟩
  refine ⟨fun p hp => ?_, fun all front raw rest lines blank => ?_, fun none' p hp => ?_⟩
  · obtain ⟨_, _, _, _, ⟨_, filled⟩ | ⟨_, lone⟩⟩ := told p hp
    · exact .inl filled
    · exact .inr lone
  · have erring' : hasZeroSummary (trim raw) = false := by
      rw [← Bool.not_eq_true]
      intro zero
      rw [hasZeroSummary_of_within (trim_within_outputLine (within lines)) zero] at erring
      exact Bool.false_ne_true erring.symm
    obtain ⟨sighting, found⟩ := Option.isSome_iff_exists.mp (blank.sightingOn?_isSome (within lines) erring')
    have listed := (message_of_scanReport read).mpr ⟨front, raw, rest, sighting, lines, found, rfl⟩
    obtain ⟨p, hp, same⟩ := List.mem_map.mp listed
    rcases sightingOn?_cases (within lines) found with ⟨clean, _⟩ | ⟨_, lone⟩
    · exact clean blank
    · rw [← same] at lone
      exact lone.not_fillsLine (all p hp)
  · obtain ⟨front, raw, rest, lines, ⟨_, filled⟩ | ⟨blank, _⟩⟩ := told p hp
    · exact filled
    · exact absurd blank (none' front raw rest lines)

/-- A report without too long numbers is read to its end, no problem has a column without a line, and each message
fills its place or is one blank. All of them fill their places unless a line of the output tells a blank. -/
theorem messages_clean_iff (short : ShortNumbers output) :
    ∃ problems, readReportWith output (.ok none) = .ok problems ∧
      (∀ p ∈ problems, (p.column?.isSome = true → p.line?.isSome = true) ∧
        (FillsLine p.message ∨ IsLoneBlank p.message)) ∧
      ((∀ p ∈ problems, FillsLine p.message) ↔ hasZeroSummary output = true ∨
        ∀ front raw rest, outputLines output = front ++ raw :: rest → ¬TellsBlank (front.any startsDetails) raw) := by
  rw [readReportWith_ok]
  cases zero : hasZeroSummary output with
  | true => exact ⟨[], by simp [readReport, zero], by simp, by simp⟩
  | false =>
    obtain ⟨problems, read⟩ := scanLines_of_short (fun raw line => short.of_outputLines line) false
    have read' : readReport output none = .ok problems := by
      change scanReport output = .ok problems at read
      simp only [readReport, zero, read]
      rfl
    obtain ⟨told, clean⟩ := scanReport_messages zero read
    exact ⟨problems, read', fun p hp => ⟨p.line_of_column, told p hp⟩, by simpa using clean⟩

end Outputs

/-- An error that is only said to be at a line is told with a blank for its message where three blanks stand in
front of that. -/
theorem messages_unclean_behind_three_blanks :
    let output : Text := "Error:   at line 5"
    ∃ problems, readReportWith output (.ok none) = .ok problems ∧
      (∀ p ∈ problems, FillsLine p.message ∨ IsLoneBlank p.message) ∧ ¬∀ p ∈ problems, FillsLine p.message := by
  intro output
  have short : ShortNumbers output := .of_length (by decide)
  obtain ⟨problems, read, told, clean⟩ := messages_clean_iff short
  refine ⟨problems, read, fun p hp => (told p hp).2, fun filled => ?_⟩
  have blank : TellsBlank false output := {
    hollow := ⟨"   at line 5", by decide, by decide, by decide, by decide⟩
    uncounted := by decide
    plain := fun after => absurd after Bool.false_ne_true }
  rcases clean.mp filled with zero | none'
  · exact absurd zero (by decide)
  · exact none' [] output [] (by decide) blank

end BasicWorkbench
