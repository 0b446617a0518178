import BasicWorkbench.Proofs.ReportReading

namespace BasicWorkbench

/-- ": 0 errors." with blanks behind the colon and behind the zero, the word for one or more in letters of any case. -/
def ZeroCount (count : Text) : Prop :=
  ∃ blanks blanks' word, count = ':' :: (blanks ++ '0' :: (blanks' ++ (word ++ ['.']))) ∧
    (blanks ≠ [] ∧ ∀ c ∈ blanks, isBlank c = true) ∧ (blanks' ≠ [] ∧ ∀ c ∈ blanks', isBlank c = true) ∧
    (word.map foldChar = "error".toList ∨ word.map foldChar = "errors".toList)

/-- A summary of zero errors in a text: the lines in front of it, the name from the start of its line to the colon,
the count, and what comes behind. -/
structure ZeroSummary (s front name count behind : Text) : Prop where
  parts : s = front ++ (name ++ (count ++ behind))
  lineStart : front = [] ∨ ∃ above, front = above ++ ['\n']
  named : name ≠ []
  unbroken : ∀ c ∈ name, inLine c = true
  counted : ZeroCount count

theorem exists_lineStart (s : Text) :
    ∃ front line, s = front ++ line ∧ (front = [] ∨ ∃ above, front = above ++ ['\n']) ∧
      ∀ c ∈ line, inLine c = true := by
  induction s using List.reverseRecOn with
  | nil => exact ⟨[], [], rfl, .inl rfl, by simp⟩
  | append_singleton s c ih =>
    obtain ⟨front, line, rfl, start, unbroken⟩ := ih
    by_cases feed : c = '\n'
    · exact ⟨front ++ line ++ [c], [], by simp, .inr ⟨front ++ line, by rw [feed]⟩, by simp⟩
    · refine ⟨front, line ++ [c], by simp, start, ?_⟩
      rw [List.forall_mem_append]
      exact ⟨unbroken, by simpa [inLine] using feed⟩

theorem startsZeroErrors_iff_count {s : Text} :
    startsZeroErrors s = true ↔ ∃ count behind, s = count ++ behind ∧ ZeroCount count := by
  rw [startsZeroErrors_iff]
  constructor
  · rintro ⟨blanks, _, rfl, given, all, blanks', word, behind, rfl, given', all', spelled⟩
    exact ⟨':' :: (blanks ++ '0' :: (blanks' ++ (word ++ ['.']))), behind, by simp,
      blanks, blanks', word, rfl, ⟨given, all⟩, ⟨given', all'⟩, spelled⟩
  · rintro ⟨_, behind, rfl, blanks, blanks', word, rfl, ⟨given, all⟩, ⟨given', all'⟩, spelled⟩
    exact ⟨blanks, blanks' ++ (word ++ '.' :: behind), by simp, given, all,
      blanks', word, behind, rfl, given', all', spelled⟩

theorem hasZeroSummary_iff_colon {s : Text} :
    hasZeroSummary s = true ↔
      ∃ front c rest, s = front ++ c :: rest ∧ inLine c = true ∧ startsZeroErrors rest = true := by
  induction s with
  | nil => simp [hasZeroSummary]
  | cons d s ih =>
    rw [hasZeroSummary, Bool.or_eq_true, Bool.and_eq_true, ih]
    constructor
    · rintro (⟨inside, zero⟩ | ⟨front, c, rest, rfl, inside, zero⟩)
      · exact ⟨[], d, s, rfl, inside, zero⟩
      · exact ⟨d :: front, c, rest, rfl, inside, zero⟩
    · rintro ⟨front, c, rest, parts, inside, zero⟩
      cases front with
      | nil =>
        obtain ⟨rfl, rfl⟩ := List.cons.inj parts
        exact .inl ⟨inside, zero⟩
      | cons _ front =>
        obtain ⟨_, rfl⟩ := List.cons.inj parts
        exact .inr ⟨front, c, rest, rfl, inside, zero⟩

/-- What is searched for is a summary with its name: the line of a colon that has a character in front of it has a
start. -/
theorem hasZeroSummary_iff {s : Text} :
    hasZeroSummary s = true ↔ ∃ front name count behind, ZeroSummary s front name count behind := by
  rw [hasZeroSummary_iff_colon]
  constructor
  · rintro ⟨before, c, rest, rfl, inside, zero⟩
    obtain ⟨count, behind, rfl, counted⟩ := startsZeroErrors_iff_count.mp zero
    obtain ⟨front, name, parts, start, unbroken⟩ := exists_lineStart before
    refine ⟨front, name ++ [c], count, behind, by simp [parts], start, by simp, ?_, counted⟩
    rw [List.forall_mem_append]
    exact ⟨unbroken, by simpa using inside⟩
  · rintro ⟨front, name, count, behind, rfl, _, named, unbroken, counted⟩
    obtain ⟨initial, c, rfl⟩ := (List.eq_nil_or_concat name).resolve_left named
    exact ⟨front ++ initial, c, count ++ behind, by simp, unbroken c (by simp),
      startsZeroErrors_iff_count.mpr ⟨count, behind, rfl, counted⟩⟩

/-- Text around a summary leaves it one. Its name grows by what comes to stand in front of it on its line. -/
theorem ZeroSummary.surround {t front name count behind : Text} (summary : ZeroSummary t front name count behind)
    (a b : Text) :
    ∃ front' name', ZeroSummary (a ++ t ++ b) front' name' count (behind ++ b) ∧
      front' ++ name' = a ++ (front ++ name) ∧ name <:+ name' := by
  obtain ⟨front', start, parts, lineStart, unbroken⟩ := exists_lineStart (a ++ front)
  refine ⟨front', start ++ name, ⟨?_, lineStart, by simp [summary.named], ?_, summary.counted⟩, ?_,
    List.suffix_append _ _⟩
  · have whole : a ++ front ++ (name ++ (count ++ behind)) ++ b =
        front' ++ start ++ (name ++ (count ++ behind)) ++ b := by rw [parts]
    rw [summary.parts]
    simpa using whole
  · rw [List.forall_mem_append]
    exact ⟨unbroken, summary.unbroken⟩
  · rw [← List.append_assoc, ← parts, List.append_assoc]

/-- A summary of zero errors stands in all that its text stands in. -/
theorem hasZeroSummary_of_within {s t : Text} (within : s <:+: t) (zero : hasZeroSummary s = true) :
    hasZeroSummary t = true := by
  obtain ⟨a, b, rfl⟩ := within
  obtain ⟨front, name, count, behind, summary⟩ := hasZeroSummary_iff.mp zero
  obtain ⟨front', name', summary', _⟩ := summary.surround a b
  exact hasZeroSummary_iff.mpr ⟨front', name', count, behind ++ b, summary'⟩

theorem readReportWith_of_zero {output : Text} (zero : hasZeroSummary output = true)
    (source : Except Fault (Option (List Text))) : readReportWith output source = .ok [] := by
  rw [readReportWith, readReport_of_zero zero]
  rfl

/-- Nothing that is printed around a summary of zero errors hides it: each summary of a part is one of the whole, with
the same count and a name that is longer by what stands in front of it on its line, and a report with one tells of no
problem, whether or not its source can be looked for. -/
theorem zero_summary_survives {t : Text} (zero : hasZeroSummary t = true) (a b : Text) :
    hasZeroSummary (a ++ t ++ b) = true ∧
      (∀ front name count behind, ZeroSummary t front name count behind →
        ∃ front' name', ZeroSummary (a ++ t ++ b) front' name' count (behind ++ b) ∧
          front' ++ name' = a ++ (front ++ name) ∧ name <:+ name') ∧
      (∀ source, readReport (a ++ t ++ b) source = .ok []) ∧
      ∀ source, readReportWith (a ++ t ++ b) source = .ok [] := by
  have whole := hasZeroSummary_of_within ⟨a, b, rfl⟩ zero
  refine ⟨whole, ?_, readReport_of_zero whole, readReportWith_of_zero whole⟩
  intro front name count behind summary
  exact summary.surround a b

/-- In front of the summary its own line is begun, behind it stands a problem. -/
theorem zero_summary_survives_problems :
    hasZeroSummary "p.sb:\u2028 0 Error." = true ∧
      readReportWith ("Error: a\nSee " ++ "p.sb:\u2028 0 Error." ++ "x\nLine 1: boom") (.ok none) = .ok [] := by
  have zero : hasZeroSummary "p.sb:\u2028 0 Error." = true := by decide
  exact ⟨zero, (zero_summary_survives zero "Error: a\nSee " "x\nLine 1: boom").2.2.2 (.ok none)⟩

end BasicWorkbench
